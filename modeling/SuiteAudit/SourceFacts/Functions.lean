import SuiteAudit.SourceFacts
import SuiteAudit.Syntax.Access

/-!
# Functions of a source file

What a function is called, who owns it, and what it takes. A function is named by its declaration,
or by what it is assigned to; a callback has no name, and what happens in it belongs to the nearest
function around it that has one.
-/

namespace SuiteAudit.SourceFacts

open Syntax

/-! ### Names -/

/-- The name among the children of a declaration. -/
def declaredName? (n : Node) : Option Text :=
  (n.child? "name").map (·.text)

/-- The name of a property of an object or class. -/
def keyName? (n : Node) : Option Text :=
  ((n.child? "key").or (n.child? "property")).map fun key =>
    (key.stringValue?.filter (!·.isEmpty)).getD key.text

/-- **The name that a parent gives to a function**: that of a variable, of a property, or of the
member that it is assigned to. -/
def nameFromParent? (parent : Node) : Option Text :=
  if parent.kind == "variable_declarator" then
    ((parent.child? "name").filter (·.kind == "identifier")).map (·.text)
  else if parent.isOneOf ["pair", "public_field_definition", "field_definition"] then
    keyName? parent
  else if parent.kind == "assignment_expression" then
    ((parent.child? "left").filter (·.kind == "member_expression")).map (·.childText "property")
  else none

/-- **The name of a function**; callbacks have none. -/
def functionName? (l : Located) : Option Text :=
  if l.node.isOneOf
      ["function_declaration", "generator_function_declaration", "method_definition"] then
    declaredName? l.node
  else l.parent?.bind nameFromParent?

/-- The name of the nearest class around a place; empty if there is none. -/
def ownerClass (l : Located) : Text :=
  match l.above.find? (·.isOneOf ["class_declaration", "class", "abstract_class_declaration"]) with
  | none => ""
  | some owner => owner.childText "name"

/-- Whether a function is part of an export. -/
def isExported (l : Located) : Bool :=
  (l.aboveUntil (·.isOneOf ["program", "statement_block"])).any (·.kind == "export_statement")

/-! ### What surrounds a place -/

/-- **A function around a place**, with its name. -/
structure Enclosing where
  function : Node
  name : Text
deriving Inhabited

/-- The nearest function around a place, if that one has a name. -/
def nearest? (l : Located) : Option Enclosing := do
  let function ← l.ancestors.find? (·.node.isFunction)
  let name ← functionName? function
  some { function := function.node, name }

/-- **The nearest function around a place that has a name.** -/
def nearestNamed? (l : Located) : Option Enclosing :=
  l.ancestors.findSome? fun function =>
    if function.node.isFunction then
      (functionName? function).map fun name => { function := function.node, name }
    else none

/-! ### Parameters -/

/-- Whether a type admits that nothing is there. -/
def isNullable (typeText : Text) : Bool :=
  (Text.splitAt '|' typeText).any fun part =>
    (Text.strip part).isOneOf ["null", "undefined"]

/-- The text of a type annotation without its colons. -/
def typeText (n : Node) : Text :=
  Text.strip (Text.through (·.dropWhile (· == ':')) n.text)

/-- A parameter with a type. -/
def typedParam (n : Node) : Param :=
  let type := ((n.child? "type").map typeText).getD ""
  { name := ((n.child? "pattern").map (·.text)).getD n.compact
    typeText := type
    optional := n.kind == "optional_parameter" || (n.child? "value").isSome || isNullable type }

/-- **The parameter that a node is**, if it is one that can be passed by itself. -/
def param? (n : Node) : Option Param :=
  if n.kind == "identifier" then some { name := n.text }
  else if n.isOneOf ["required_parameter", "optional_parameter"] then some (typedParam n)
  else if n.kind == "assignment_pattern" then some { name := n.childText "left", optional := true }
  else if n.kind == "rest_pattern" then
    some { name := Text.through (·.dropWhile (· == '.')) n.compact, optional := true }
  else none

/-- The parameters of a function. -/
def paramsOf (function : Node) : List Param :=
  match function.child? "parameters" with
  | some params => params.namedChildren.filterMap param?
  | none => ((function.child? "parameter").map fun n => { name := n.text }).toList

/-- **The signature of a function** that has a name. -/
def signature? (l : Located) : Option FunctionSignature :=
  if !l.node.isFunction then none
  else
    (functionName? l).map fun name =>
      { name, params := paramsOf l.node, line := l.node.line, exported := isExported l
        isAsync := l.node.isAsync }

/-! ### Variables -/

/-- The variables that a function declares, those of functions inside it included. -/
def localNames (function : Node) : List Text :=
  match function.body? with
  | none => []
  | some body =>
    (body.nodes.filter (·.kind == "variable_declarator")).filterMap fun n =>
      ((n.child? "name").filter (·.kind == "identifier")).map (·.text)

mutual

/-- **The variable, or `this`, at the root of an access**; empty for anything else. -/
def rootOf : Node → Text
  | .mk label children =>
    let n := Node.mk label children
    if n.isAccess then rootOfObject children
    else if n.isOneOf ["identifier", "this"] then label.text
    else ""

/-- The root of the object among the children of an access. -/
def rootOfObject : List Node → Text
  | [] => ""
  | c :: rest => if c.field == "object" then rootOf c else rootOfObject rest

end

end SuiteAudit.SourceFacts
