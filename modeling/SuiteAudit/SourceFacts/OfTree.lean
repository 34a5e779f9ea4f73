import SuiteAudit.SourceFacts.Functions
import SuiteAudit.Syntax.Grammar
import SuiteAudit.Content

/-!
# The facts of a source file

Where functions fail, what they compare with numbers, how they return and what they change, all in
document order. Facts are narrowed to what a test imports if that leaves any. A source that is
missing or is not text gives no facts at all.
-/

namespace SuiteAudit.SourceFacts

open Syntax

/-! ### Conditions -/

/-- Whether the bytes of one node lie within those of another. -/
def covers (outer inner : Node) : Bool :=
  outer.label.first ≤ inner.label.first && inner.label.last ≤ outer.label.last

/-- The condition of an `if` without the parentheses around it. -/
def conditionText (n : Node) : Text :=
  let text := n.childCompact "condition"
  if Text.startsWith text "(" && Text.endsWith text ")" then Text.inner text else text

/-- The condition under which control reaches `child`, below `parent`, if `parent` sets one. -/
def guard? (child parent : Node) : Option Text :=
  if parent.kind == "if_statement" then
    let condition := conditionText parent
    if (parent.child? "alternative").any (covers · child) then some ("!(" ++ condition ++ ")")
    else some condition
  else if parent.kind == "switch_case" then some ("case " ++ parent.childCompact "value")
  else if parent.kind == "switch_default" then some "default"
  else if parent.kind == "catch_clause" then some "catch"
  else none

/-- The conditions on the way up from a node, the innermost first. -/
def guardsFrom (child : Node) : List Node → List Text
  | [] => []
  | parent :: above => (guard? child parent).toList ++ guardsFrom parent above

/-- **The condition under which control reaches a place** of a function, the outermost part
first. -/
def conditionOf (l : Located) (function : Node) : Text :=
  match (guardsFrom l.node (l.aboveUntil (·.extent == function.extent))).reverse with
  | [] => "always"
  | guards => Text.join " && " guards

/-! ### Failures -/

/-- The content of a node that may be a string; empty if it is none. -/
def stringOf (n : Option Node) : Text :=
  (n.bind Node.stringValue?).getD ""

/-- **The type and message of an error** that is made, called for, or thrown again. -/
def describeError (n : Node) : Text × Text :=
  if n.kind == "new_expression" then (n.childCompact "constructor", stringOf n.arguments.head?)
  else if n.kind == "call_expression" then (n.childCompact "function", stringOf n.arguments.head?)
  else if n.kind == "identifier" then (n.text, "")
  else ("", stringOf (some n))

/-- A failure with the error that a node describes. -/
def failureAt (l : Located) (e : Enclosing) (error : Option Node) : ThrowSite :=
  let (errorType, message) := (error.map describeError).getD ("", "")
  { function := e.name, condition := conditionOf l e.function, line := l.node.line, errorType
    message }

/-- Functions that fail if their first argument does not hold. -/
def assertingCalls : List Text :=
  ["invariant", "assert", "assert.ok", "console.assert"]

/-- Functions that reject a promise. -/
def rejectingCalls : List Text :=
  ["Promise.reject", "reject"]

/-- The failure of a call. -/
def callFailure? (l : Located) (e : Enclosing) : Option ThrowSite := do
  let path ← l.node.calleePath?
  let callee := Text.join "." path
  let arguments := l.node.arguments
  let first ← arguments.head?
  if assertingCalls.contains callee then
    some { function := e.name, condition := "!(" ++ first.compact ++ ")", line := l.node.line
           errorType := "AssertionError", message := stringOf arguments[1]? }
  else if rejectingCalls.contains callee && first.kind == "new_expression" then
    some (failureAt l e (some first))
  else none

/-- **The failure at a place**, if it lies in a function with a name. -/
def throw? (l : Located) : Option ThrowSite :=
  if l.node.kind == "throw_statement" then
    (nearestNamed? l).map fun e => failureAt l e l.node.namedChildren.head?
  else if l.node.kind == "call_expression" then (nearestNamed? l).bind (callFailure? l)
  else none

/-! ### Numbers -/

/-- The variable and the number of a declarator with a numeric value. -/
def constant? (declarator : Node) : Except NumberTooLarge (Option (Text × Float)) := do
  if declarator.kind != "variable_declarator" then return none
  let value ← ((declarator.child? "value").map Node.numberValue).getD (.ok none)
  let name := ((declarator.child? "name").filter (·.kind == "identifier")).map (·.text)
  return do some (← name, ← value)

/-- The declaration of a statement, which may be exported. -/
def declarationOf (statement : Node) : Node :=
  if statement.kind == "export_statement" then
    (statement.child? "declaration").getD statement
  else statement

/-- Whether a declaration is of constants. -/
def declaresConstants (n : Node) : Bool :=
  n.kind == "lexical_declaration" && n.children.head?.any (·.text == "const")

/-- **The numeric constants of a file**, a later one of a name before an earlier. -/
def constantsOf (root : Node) : Except NumberTooLarge (List (Text × Float)) := do
  let declarations := (root.namedChildren.map declarationOf).filter declaresConstants
  let found ← (declarations.flatMap (·.namedChildren)).mapM constant?
  return (found.filterMap id).reverse

/-- The number that a node stands for, by itself or as a constant. -/
def numeric (constants : List (Text × Float)) (n : Node) :
    Except NumberTooLarge (Option Float) := do
  match ← n.numberValue with
  | some x => return some x
  | none => return if n.kind == "identifier" then constants.lookup (.ofString n.text) else none

/-- The first of some nodes that stands for a number. -/
def firstNumeric (constants : List (Text × Float)) :
    List Node → Except NumberTooLarge (Option (Node × Float))
  | [] => .ok none
  | n :: rest => do
    match ← numeric constants n with
    | some x => return some (n, x)
    | none => firstNumeric constants rest

/-- **The comparison with a number at a place**; of two numbers the right one counts. -/
def comparison? (constants : List (Text × Float)) (l : Located) :
    Except NumberTooLarge (Option BoundaryComparison) :=
  let n := l.node
  if n.kind == "binary_expression" && ["<", "<=", ">", ">="].contains n.operator then
    match nearestNamed? l with
    | none => .ok none
    | some e => do
      let sides := (n.child? "right").toList ++ (n.child? "left").toList
      let found ← firstNumeric constants sides
      return found.map fun (side, value) =>
        { function := e.name, operator := n.operator, operand := side.compact, value
          line := n.line }
  else .ok none

/-! ### Ways out -/

mutual

/-- What parentheses enclose: the first named node inside, as long as there is one. -/
def unwrapped : Node → Node
  | .mk label children =>
    if label.kind == "parenthesized_expression" then
      (unwrappedFirst children).getD (.mk label children)
    else .mk label children

/-- The first named node, without its parentheses. -/
def unwrappedFirst : List Node → Option Node
  | [] => none
  | c :: rest => if c.named then some (unwrapped c) else unwrappedFirst rest

end

/-- The property that a part of an object literal sets. -/
def propertyName? (n : Node) : Option Text :=
  if n.kind == "shorthand_property_identifier" then some n.text
  else if n.isOneOf ["pair", "method_definition"] then
    (n.child? (if n.kind == "pair" then "key" else "name")).bind fun key =>
      some (if key.kind == "string" then stringOf (some key) else key.text) |>.filter (· != "")
  else none

/-- **The properties of a returned object**, in order; none for other values. -/
def objectKeys (n : Node) : List Text :=
  let value := unwrapped n
  if value.kind == "object" then value.namedChildren.filterMap propertyName? else []

/-- **The way out at a place**: a return of the nearest function if that one has a name, or the
whole body of a function with a name. -/
def return? (l : Located) : Option ReturnPath :=
  if l.node.kind == "return_statement" then
    (nearest? l).map fun e =>
      { function := e.name, condition := conditionOf l e.function, line := l.node.line
        keys := (l.node.namedChildren.head?.map objectKeys).getD [] }
  else if l.node.isFunction then do
    let name ← functionName? l
    let body ← l.node.body?.filter (·.kind != "statement_block")
    some { function := name, condition := "always", line := body.line, keys := objectKeys body }
  else none

/-! ### Changes -/

/-- Methods that change what they are called on, or the world. -/
def sideEffectMethods : List Text :=
  ["push", "pop", "shift", "unshift", "splice", "set", "add", "delete", "clear", "emit",
    "dispatch", "save", "write", "writeFile", "writeFileSync", "send", "setItem", "removeItem",
    "insert", "update", "remove", "publish", "post", "put", "patch"]

/-- Functions that reach outside. -/
def sideEffectCalls : List Text :=
  ["fetch", "axios", "localStorage.setItem", "sessionStorage.setItem"]

/-- Whether a change to this root can be seen outside a function. -/
def isOutside (e : Enclosing) (root : Text) : Bool :=
  root == "this" || !(localNames e.function).contains root

/-- Whether a call by this path changes something outside a function. -/
def callChanges (e : Enclosing) (path : List Text) : Bool :=
  let root := path.headD ""
  sideEffectCalls.contains (Text.join "." path) || root == "axios" ||
    1 < path.length && sideEffectMethods.contains (path.getLast?.getD "") && isOutside e root

/-- The access that a node assigns to. -/
def assignedAccess? (n : Node) : Option Node :=
  (if n.isOneOf ["assignment_expression", "augmented_assignment_expression"] then n.child? "left"
    else if n.kind == "update_expression" then n.child? "argument"
    else none).filter Node.isAccess

/-- **The change at a place** that can be seen outside its function. -/
def sideEffect? (l : Located) : Option SideEffect :=
  if l.node.kind == "call_expression" then do
    let path ← l.node.calleePath?
    let e ← nearestNamed? l
    if callChanges e path then
      some { function := e.name, target := Text.join "." path, line := l.node.line }
    else none
  else do
    let target ← assignedAccess? l.node
    let e ← nearestNamed? l
    if rootOf target != "" && isOutside e (rootOf target) then
      some { function := e.name, target := target.compact, line := l.node.line }
    else none

/-! ### Narrowing -/

/-- The class of each method by the method's name, a later one of a name before an earlier. -/
def ownersOf (places : List Located) : List (Text × Text) :=
  let methods := places.filter (·.node.kind == "method_definition")
  let owners := methods.filterMap fun l => (functionName? l).map fun name => (name, ownerClass l)
  (owners.filter (!·.2.isEmpty)).reverse

/-- Whether an import is of the function, or of the class that owns it. -/
def isImported (imported : List Text) (owners : List (Text × Text)) (name : Text) : Bool :=
  imported.contains name || imported.contains ((owners.lookup name).getD "")

/-- The facts about some functions only. -/
def only (f : SourceFacts) (names : List Text) : SourceFacts :=
  { f with
    functions := f.functions.filter (names.contains ·.name)
    throws := f.throws.filter (names.contains ·.function)
    comparisons := f.comparisons.filter (names.contains ·.function)
    returns := f.returns.filter (names.contains ·.function)
    sideEffects := f.sideEffects.filter (names.contains ·.function) }

/-- **Narrows facts to what is imported**, unless that is everything, or would leave no function. -/
def narrow (f : SourceFacts) (imported : List Text) (owners : List (Text × Text)) :
    SourceFacts :=
  if imported.isEmpty || imported.contains "*" then f
  else
    match (f.functions.map (·.name)).filter (isImported imported owners) with
    | [] => f
    | names => f.only names

/-! ### The facts -/

/-- **All facts of a tree.** -/
def ofTree (tree : Tree) : Except NumberTooLarge SourceFacts := do
  let places := tree.root.places []
  let constants ← constantsOf tree.root
  let comparisons ← places.mapM (comparison? constants)
  return {
    available := true
    functions := places.filterMap signature?
    throws := places.filterMap throw?
    comparisons := comparisons.filterMap id
    returns := places.filterMap return?
    sideEffects := places.filterMap sideEffect?
    recovered := tree.recovered }

/-- **Reads the facts of a source file**, narrowed to the imported names. A path that no grammar
reads is read by the default one. -/
def read (parse : Parser) (source : Option Content) (imported : List Text) (path : Text := "") :
    Except NumberTooLarge SourceFacts :=
  match source.bind Content.string? with
  | none => .ok .unavailable
  | some text =>
    let tree := parse ((Grammar.ofPath? path).getD .default) text
    (ofTree tree).map fun facts => facts.narrow imported (ownersOf (tree.root.places []))

end SuiteAudit.SourceFacts
