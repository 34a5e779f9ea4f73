import SuiteAudit.Suite.Chain
import SuiteAudit.Suite.Basic

/-!
# Bodies of tests and hooks

Everything that is read off the body of a callback: its assertions, calls, literals and mocks, what
it changes, and how it runs. All of it is a walk over the places of the body, nested functions
included, and each fact is a list of its own.
-/

namespace SuiteAudit

open Syntax

/-- **A body**: the function, and the places below its body in document order. -/
structure Body where
  function : Node
  root : Node
  places : List Located
deriving Inhabited

namespace Body

/-- **The body of a function**, if it has one. -/
def of? (function : Node) : Option Body :=
  function.body?.map fun root =>
    { function, root, places := root.places [function] }

/-- The nodes of the body in document order. -/
def nodes (b : Body) : List Node :=
  b.places.map (·.node)

/-- How many nodes of the body have a property. -/
def count (b : Body) (p : Node → Bool) : Nat :=
  b.nodes.countP p

/-- Whether a node is the function itself. -/
def isFunction (b : Body) (n : Node) : Bool :=
  n.kind == b.function.kind && n.extent == b.function.extent

/-- **Whether a place lies, within the function, below a node of one of the kinds.** -/
def isBelow (b : Body) (l : Located) (kinds : List String) : Bool :=
  (l.aboveUntil b.isFunction).any (·.isOneOf kinds)

/-! ### Paths through a body -/

/-- The kinds of node that add a path. -/
def branchKinds : List String :=
  ["if_statement", "for_statement", "for_in_statement", "while_statement", "do_statement",
    "switch_case", "catch_clause", "ternary_expression"]

/-- Whether a node adds a path. -/
def branches (n : Node) : Bool :=
  n.isOneOf branchKinds ||
    n.kind == "binary_expression" && ["&&", "||", "??"].contains n.operator

/-- The statements after an exit, those that are hoisted apart; `exited` tells whether one has been
passed. -/
def deadFrom (exited : Bool) : List Node → List Node
  | [] => []
  | n :: rest =>
    let exits := n.isOneOf ["return_statement", "throw_statement"]
    let hoisted :=
      n.isOneOf ["comment", "function_declaration", "generator_function_declaration"]
    if exited && !hoisted then n :: deadFrom true rest else deadFrom (exited || exits) rest

/-- **The first statement of a block that never runs.** -/
def dead? (block : Node) : Option Node :=
  (deadFrom false block.namedChildren).head?

/-- The statements that never run, one for each block. -/
def unreachable (b : Body) : List Span :=
  ((b.nodes.filter (·.kind == "statement_block")).filterMap dead?).map Node.span

/-- **Whether the function returns something**: it has a return with a value, or its body is a call
or an `await`. -/
def returnsPromise (b : Body) : Bool :=
  b.root.isOneOf ["call_expression", "await_expression"] ||
    b.places.any fun l =>
      l.node.kind == "return_statement" && !l.node.namedChildren.isEmpty &&
        !b.isBelow l Node.functionKinds

/-! ### Variables -/

/-- Whether a variable is mentioned in an expression. -/
def mentions (name : Text) (n : Node) : Bool :=
  n.nodes.any fun m => m.kind == "identifier" && m.text == name

/-- The name of the variable that a declarator declares, unless it takes something apart. -/
def declaredName? (declarator : Node) : Option Text :=
  ((declarator.child? "name").filter (·.kind == "identifier")).map (·.text)

/-- The variables that the body declares. -/
def declared (b : Body) : List Text :=
  (b.nodes.filter (·.kind == "variable_declarator")).filterMap declaredName?

/-- Methods that change what they are called on. -/
def mutators : List Text :=
  ["push", "pop", "shift", "unshift", "splice", "sort", "reverse", "fill", "set", "add", "delete",
    "clear"]

/-- Whether a node assigns. -/
def assigns (n : Node) : Bool :=
  n.isOneOf ["assignment_expression", "augmented_assignment_expression"]

/-- The name at the root of what a node assigns to; an empty one is none. -/
def targetName? (n : Node) (field : String) : Option Text :=
  ((n.child? field).bind Node.rootName?).filter (!·.isEmpty)

/-- Whether an assignment sets a variable as a whole. -/
def setsVariable (n : Node) : Bool :=
  n.kind != "augmented_assignment_expression" &&
    (n.child? "left").any (·.kind == "identifier")

/-- The variable that an assignment sets as a whole. -/
def assignedName? (n : Node) : Option Text :=
  if assigns n && setsVariable n then targetName? n "left" else none

/-- **The variable that a node changes**: a part of it, its number, or its value by way of the
old one; or a call of a method that changes what it is called on. -/
def mutatedName? (n : Node) : Option Text :=
  if assigns n then
    (targetName? n "left").filter fun name =>
      !setsVariable n || (n.child? "right").any (mentions name)
  else if n.kind == "update_expression" then targetName? n "argument"
  else if n.kind == "call_expression" then
    match n.calleePath? with
    | some (root :: second :: rest) =>
      if mutators.contains ((second :: rest).getLast?.getD "") then some root else none
    | _ => none
  else none

/-- The variables that the body sets as a whole. -/
def assigned (b : Body) : List Text :=
  b.nodes.filterMap assignedName?

/-- The variables that the body changes. -/
def mutated (b : Body) : List Text :=
  b.nodes.filterMap mutatedName?

/-! ### Calls -/

/-- The calls of the body, `new` apart, with the paths of those that have one. -/
def callPaths (b : Body) : List (List Text) :=
  (b.nodes.filter (·.kind == "call_expression")).filterMap Node.calleePath?

/-- Roots of calls that are assertions. -/
def assertingRoots : List Text :=
  ["expect", "assert"]

/-- **The functions that the body calls**, by dotted path, assertions apart. -/
def calls (b : Body) : List Text :=
  (b.callPaths.filter fun path => !assertingRoots.contains (path.headD "")).map (Text.join ".")

/-- Whether the body says how many assertions have to run. -/
def hasAssertionGuard (b : Body) : Bool :=
  b.callPaths.any fun path =>
    (Text.join "." path).isOneOf ["expect.assertions", "expect.hasAssertions"]

/-- The kinds of mock by the function that makes them. -/
def mockApis : List (Text × MockKind) :=
  [("jest.mock", .module), ("jest.doMock", .module), ("jest.unstable_mockModule", .module),
    ("vi.mock", .module), ("vi.doMock", .module), ("jest.fn", .function), ("vi.fn", .function),
    ("sinon.fake", .function), ("sinon.stub", .function), ("sinon.mock", .function),
    ("jest.spyOn", .spy), ("vi.spyOn", .spy), ("sinon.spy", .spy), ("sinon.replace", .spy),
    ("jest.useFakeTimers", .timer), ("vi.useFakeTimers", .timer),
    ("sinon.useFakeTimers", .timer), ("cy.intercept", .network), ("cy.stub", .function),
    ("cy.spy", .spy), ("page.route", .network), ("nock", .network)]

/-- The text of an argument that names something: the content of a string, else its text. -/
def argumentName (n : Node) : Text :=
  n.stringValue?.getD n.compact

/-- What a mock replaces: what its first argument names, and for a spy the method as well. -/
def mockTarget (kind : MockKind) : List Node → Text
  | [] => ""
  | [target] => argumentName target
  | target :: method :: _ =>
    match kind, method.stringValue?.filter (!·.isEmpty) with
    | .spy, some name => argumentName target ++ "." ++ name
    | _, _ => argumentName target

/-- **The mock that a call makes**, if it makes one. -/
def mock? (scope : MockScope) (testIndex : Option Nat) (call : Node) : Option Mock := do
  let api := Text.join "." (← call.calleePath?)
  let kind ← mockApis.lookup api
  some { api, kind, span := call.span, target := mockTarget kind call.arguments, scope, testIndex }

/-- The mocks that the body makes. -/
def mocks (b : Body) (scope : MockScope) (testIndex : Option Nat := none) : List Mock :=
  (b.nodes.filter (·.kind == "call_expression")).filterMap (mock? scope testIndex)

/-! ### Assertions -/

/-- Whether a place is the last of a chain that may assert: a call, or an access that is a statement
of its own. -/
def isChain (l : Located) : Bool :=
  l.endsChain &&
    (l.node.kind == "call_expression" ||
      l.node.kind == "member_expression" && l.parentIsOneOf ["expression_statement"])

/-- Whether a chain is waited for or handed back. -/
def isAwaited (l : Located) : Bool :=
  l.parentIsOneOf ["await_expression", "return_statement", "arrow_function"]

/-- What is read off the chain at a place. -/
def readingAt (l : Located) : Reading :=
  if isChain l then .ofLinks l.node.links else {}

/-- The assertions of the chain at a place. -/
def assertionsAt (b : Body) (l : Located) : List Assertion :=
  (readingAt l).assertions.map fun a =>
    { a with span := l.node.span, awaited := isAwaited l
             inCatch := b.isBelow l ["catch_clause"] }

/-- **The assertions of the body.** -/
def assertions (b : Body) : List Assertion :=
  b.places.flatMap b.assertionsAt

/-- The roles of the argument lists of all chains. -/
def roles (b : Body) : List ((Nat × Nat) × ArgsRole) :=
  b.places.flatMap fun l => (readingAt l).roles

/-! ### Literals -/

/-- Roots of calls whose literals say nothing about the code under test. -/
def incidentalRoots : List Text :=
  ["cy", "page", "jest", "vi", "sinon", "screen", "console", "expect", "assert", "document",
    "window", "Promise", "JSON", "Object", "Array", "Math", "describe", "it", "test", "userEvent",
    "fireEvent", "waitFor"]

/-- **What is called**, for a call and for `new`. -/
def invoked (n : Node) : Text :=
  if n.kind == "call_expression" then n.calleeText
  else "new " ++ n.childCompact "constructor"

/-- A literal among the arguments of a call, with its position and node. -/
structure FoundLiteral where
  position : Nat
  node : Node
  literal : Literal

/-- **The literals among arguments**, from a position on. -/
def literalsFrom (position : Nat) : List Node → Except NumberTooLarge (List FoundLiteral)
  | [] => .ok []
  | n :: rest => do
    let literal ← n.literal?
    let more ← literalsFrom (position + 1) rest
    return literal.toList.map (fun literal => { position, node := n, literal }) ++ more

/-- **A call and the literals that it is given.** -/
structure LiteralCall where
  callee : Text
  role : Option ArgsRole
  argumentCount : Nat
  literals : List FoundLiteral

namespace LiteralCall

/-- Whether the call says nothing about the code under test. -/
def isIncidental (c : LiteralCall) : Bool :=
  incidentalRoots.contains (Text.beforeFirst '.' c.callee)

/-- What a literal of the call is passed for. -/
def roleOf (c : LiteralCall) (position : Nat) : LiteralRole :=
  match c.role with
  | some role => role.at position
  | none => if c.isIncidental then .incidental else .input

/-- The literals of the call. -/
def args (c : LiteralCall) (testIndex : Nat) : List LiteralArg :=
  c.literals.map fun found =>
    { literal := found.literal, text := found.node.compact, span := found.node.span, testIndex
      callee := c.callee, position := found.position, role := c.roleOf found.position }

/-- Whether the call feeds the code under test with literals alone. -/
def isAllLiteral (c : LiteralCall) : Bool :=
  0 < c.argumentCount && c.literals.length == c.argumentCount && c.role.isNone && !c.isIncidental

/-- The callee and the text of the arguments. -/
def text (c : LiteralCall) : Text × Text :=
  (c.callee, Text.join ", " (c.literals.map (·.node.compact)))

end LiteralCall

/-- The literals of a call; a call without an argument list in parentheses has none. -/
def literalCall? (roles : List ((Nat × Nat) × ArgsRole)) (n : Node) :
    Except NumberTooLarge (Option LiteralCall) :=
  if !n.isOneOf ["call_expression", "new_expression"] then .ok none
  else
    match (n.child? "arguments").filter (·.kind == "arguments") with
    | none => .ok none
    | some args => do
      let literals ← literalsFrom 0 args.operands
      return some
        { callee := invoked n, role := roles.lookup args.extent
          argumentCount := args.operands.length, literals }

/-- **The calls of the body with their literals.** -/
def literalCalls (b : Body) : Except NumberTooLarge (List LiteralCall) := do
  let found ← b.nodes.mapM (literalCall? b.roles)
  return found.filterMap id

end Body

end SuiteAudit
