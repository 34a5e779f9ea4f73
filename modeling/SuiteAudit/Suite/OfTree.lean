import SuiteAudit.Suite.Outline
import SuiteAudit.Suite.Body
import SuiteAudit.Suite.Imports
import SuiteAudit.Classify
import SuiteAudit.Content
import SuiteAudit.Syntax.Grammar
import SuiteAudit.Text.Lines

/-!
# The suite of a test file

The outline of a file says which tests, hooks and shared variables it has, and the bodies of the
callbacks say what those do. A file is refused only if no grammar reads its path, or if it is not
text; syntax errors are recovered from. A whole number too large for a double stops the reading.
-/

namespace SuiteAudit

open Syntax

namespace Suite

/-! ### Tests -/

/-- **A test as it is read off its call**: the test case, the literals that it passes on, and its
body. -/
structure ReadTest where
  test : TestCase
  literals : List LiteralArg
  body : Option Body

/-- The literal at a place in a table. Arrays and objects are gone through instead, and the number
behind a sign counts with its sign. -/
def tableLiteral? (testIndex : Nat) (l : Located) : Except NumberTooLarge (Option LiteralArg) :=
  if l.node.isOneOf ["array", "object"] then .ok none
  else
    l.node.literal?.map fun found =>
      (found.filter fun _ => !l.parentIsOneOf ["unary_expression"]).map fun literal =>
        { literal, text := l.node.compact, span := l.node.span, testIndex, callee := "each" }

/-- The literals of a table. -/
def tableLiterals (testIndex : Nat) (table : Node) : Except NumberTooLarge (List LiteralArg) := do
  let found ← (table.places []).mapM (tableLiteral? testIndex)
  return found.filterMap id

/-- The test of a block with this body, whose calls pass these literals. -/
def testOf (b : Block) (call : Node) (place : Place) (body : Option Body)
    (calls : List Body.LiteralCall) : TestCase where
  name := b.title
  span := call.span
  assertions := (body.map Body.assertions).getD []
  isAsync := b.callback.any Node.isAsync
  describes := place.describes
  marker := b.callee
  skipped := place.skipped || b.skipped || b.callback.isNone && !b.todo
  focused := b.focused
  todo := b.todo
  parameterized := b.table.isSome
  statementCount := (b.body?.map Node.statementCount).getD 0
  awaitCount := (body.map (·.count (·.kind == "await_expression"))).getD 0
  returnsPromise := body.any Body.returnsPromise
  calls := (body.map Body.calls).getD []
  literalCalls := (calls.filter (·.isAllLiteral)).map (·.text)
  hasTryCatch := body.any fun body => body.nodes.any (·.kind == "try_statement")
  hasAssertionGuard := body.any Body.hasAssertionGuard
  branchCount := (body.map (·.count Body.branches)).getD 0
  unreachable := (body.map Body.unreachable).getD []

/-- **Reads a test** that is the one at `index`. -/
def readTest (index : Nat) (b : Block) (call : Node) (place : Place) :
    Except NumberTooLarge ReadTest := do
  let body := b.callback.bind Body.of?
  let calls ← (body.map Body.literalCalls).getD (.ok [])
  let rows ← (b.table.map (tableLiterals index)).getD (.ok [])
  return { test := testOf b call place body calls
           literals := calls.flatMap (·.args index) ++ rows
           body }

/-! ### Hooks, mocks and markers -/

/-- The hook of a block. -/
def hookOf (kind : HookKind) (b : Block) (call : Node) (place : Place) : Hook :=
  let body := b.callback.bind Body.of?
  { kind, span := call.span, describes := place.describes
    assigned := ((body.map fun body => body.assigned ++ body.mutated).getD []).eraseDups.mergeSort
      Text.le
    calls := (body.map Body.calls).getD []
    statementCount := (b.body?.map Node.statementCount).getD 0 }

/-- The marker of a block. -/
def markerOf (block : MarkerBlock) (b : Block) : Marker where
  block := block
  name := b.title
  callee := b.callee
  span := b.calleeNode.span
  focused := b.focused
  skipped := b.skipped

/-- The marker of an item; hooks have none. -/
def marker? : Item → Option Marker
  | .block b _ _ =>
    match b.kind with
    | .describe => some (markerOf .describe b)
    | .test => some (markerOf .test b)
    | .hook _ => none
  | _ => none

/-- The hook of an item. -/
def hook? : Item → Option Hook
  | .block b call place =>
    match b.kind with
    | .hook kind => some (hookOf kind b call place)
    | _ => none
  | _ => none

/-- Whether an item is a test. -/
def isTest : Item → Bool
  | .block b _ _ => b.kind == .test
  | _ => false

/-- The items, each with the number of tests before it. -/
def numberedFrom (index : Nat) : List Item → List (Nat × Item)
  | [] => []
  | item :: rest => (index, item) :: numberedFrom (if isTest item then index + 1 else index) rest

/-- Reads the tests among numbered items. -/
def readTests : List (Nat × Item) → Except NumberTooLarge (List ReadTest)
  | [] => .ok []
  | (index, .block b call place) :: rest =>
    if b.kind == .test then do
      let test ← readTest index b call place
      let more ← readTests rest
      return test :: more
    else readTests rest
  | _ :: rest => readTests rest

/-- The mocks that a callback makes. -/
def callbackMocks (b : Block) (scope : MockScope) (testIndex : Option Nat := none) : List Mock :=
  ((b.callback.bind Body.of?).map (·.mocks scope testIndex)).getD []

/-- **The mocks of a numbered item**: of the file itself, of a hook, or of the test that the number
tells. -/
def mocksOf : Nat × Item → List Mock
  | (_, .call n) => (Body.mock? .module none n).toList
  | (index, .block b _ _) =>
    match b.kind with
    | .describe => []
    | .test => callbackMocks b .test (some index)
    | .hook _ => callbackMocks b .hook
  | (_, .declaration _ _) => []

/-! ### Shared variables -/

/-- The kinds of node that make a container which can change. -/
def containerKinds : List String :=
  ["array", "object", "new_expression"]

/-- **The shared variable of a declarator**: one that can be set again, or whose value can
change. -/
def binding? (keyword : Text) (describes : List Text) (declarator : Node) : Option Binding := do
  if declarator.kind != "variable_declarator" then none
  let name ← Body.declaredName? declarator
  let mutableContainer := (declarator.child? "value").any (·.isOneOf containerKinds)
  if keyword == "const" && !mutableContainer then none
  some { name, keyword, span := declarator.span, describes, mutableContainer }

/-- The shared variables of an item. -/
def bindingsOf : Item → List Binding
  | .declaration n describes =>
    let keyword := (n.children.head?.map (·.text)).getD ""
    n.namedChildren.filterMap (binding? keyword describes)
  | _ => []

/-- Whether of two lists of titles one begins with the other. -/
def overlap (xs ys : List Text) : Bool :=
  xs.isPrefixOf ys || ys.isPrefixOf xs

/-- The kinds of hook that set a shared variable, sorted. -/
def resetBy (hooks : List Hook) (b : Binding) : List HookKind :=
  let setting := hooks.filter fun h =>
    h.assigned.contains b.name && overlap h.describes b.describes
  (setting.map (·.kind)).eraseDups.mergeSort fun x y => Text.le x.name y.name

/-- Whether a test changes a shared variable, and not one of its own of the same name. -/
def mutates (b : Binding) (t : ReadTest) : Bool :=
  t.body.any (fun body => body.mutated.contains b.name && !body.declared.contains b.name) &&
    b.describes.isPrefixOf t.test.describes

/-- The indices of the tests that change a shared variable. -/
def mutatedIn (tests : List ReadTest) (b : Binding) : List Nat :=
  (tests.zipIdx.filter fun (t, _) => mutates b t).map (·.2)

/-! ### The suite -/

/-- **The suite of an outline**, imports and lines apart. -/
def ofOutline (items : List Item) : Except NumberTooLarge Suite := do
  let numbered := numberedFrom 0 items
  let tests ← readTests numbered
  let hooks := items.filterMap hook?
  return {
    tests := tests.map (·.test)
    hooks
    mocks := numbered.flatMap mocksOf
    bindings := (items.flatMap bindingsOf).map fun b =>
      { b with resetBy := resetBy hooks b, mutatedIn := mutatedIn tests b }
    literals := tests.flatMap (·.literals)
    markers := items.filterMap marker? }

/-- **The suite of a text** with this tree. Without a given framework it is detected. -/
def ofTree (path : Text) (text : String) (framework : Option Framework) (tree : Tree) :
    Except NumberTooLarge Suite := do
  let imports := importsOf tree.root
  let suite ← ofOutline (outline tree.root)
  return { suite with
    path
    framework := framework.getD (detectFramework imports text)
    imports
    lines := Text.lines text
    recovered := tree.recovered }

/-! ### Files -/

/-- **Why a file was refused.** -/
inductive FailureKind where
  | unsupportedSyntax
  /-- A cause that reading itself does not have. -/
  | other (name : Text)
deriving Repr, DecidableEq, Inhabited

/-- The name of a cause. -/
def FailureKind.name : FailureKind → Text
  | unsupportedSyntax => "unsupported-syntax"
  | other name => name

/-- The cause of a name. -/
def FailureKind.ofName (s : Text) : FailureKind :=
  if s == unsupportedSyntax.name then unsupportedSyntax else other s

/-- **A file that could not be read.** -/
structure ParseFailure where
  path : Text
  kind : FailureKind
  detail : Text := ""
deriving Repr, DecidableEq, Inhabited

/-- What is said of a file that could not be read. -/
def ParseFailure.message (f : ParseFailure) : Text :=
  let text := f.path ++ ": " ++ f.kind.name
  if f.detail == "" then text else text ++ " (" ++ f.detail ++ ")"

/-- **Why there is no suite**: the file was refused, or a number in it is too large. -/
inductive ReadError where
  | refused (failure : ParseFailure)
  | tooLarge (number : NumberTooLarge)
deriving Repr, DecidableEq

/-- The refusal of a file. -/
def ReadError.unsupported (path detail : Text) : ReadError :=
  .refused { path, kind := .unsupportedSyntax, detail }

/-- **Reads a test file.** -/
def read (parse : Parser) (path : Text) (content : Content) (framework : Option Framework) :
    Except ReadError Suite :=
  match Grammar.ofPath? path, content.string? with
  | none, _ => .error (.unsupported path "not a JavaScript/TypeScript file")
  | some _, none => .error (.unsupported path "content is not UTF-8 text")
  | some grammar, some text =>
    (ofTree path text framework (parse grammar text)).mapError .tooLarge

end Suite

end SuiteAudit
