import SuiteAudit.Suite.Basic
import SuiteAudit.Syntax.Spelling

/-!
# Imports of a file

Import statements and calls of `require`, in the order of their lines; of those on one line the
statements come first.
-/

namespace SuiteAudit

open Syntax

namespace Imports

/-- The name that a place within an import statement binds. -/
def boundName? (l : Located) : Option Text :=
  if l.node.kind == "import_specifier" then (l.node.child? "name").map (·.text)
  else if l.node.kind == "namespace_import" then some "*"
  else if l.node.kind == "identifier" && l.parentIsOneOf ["import_clause"] then some l.node.text
  else none

/-- **The import of a statement** that names its source. -/
def ofStatement? (n : Node) : Option Import :=
  if n.kind == "import_statement" && n.named then
    (n.children.find? fun c => c.field == "source" && c.kind == "string" && c.named).map fun c =>
      { source := c.stringValue?.getD "", names := (n.places []).filterMap boundName?
        line := n.line }
  else none

/-- The names that a pattern binds, as far as a `require` is concerned. -/
def patternNames (target : Node) : List Text :=
  if target.kind == "identifier" then [target.text]
  else
    (target.nodes.filter
      (·.isOneOf ["shorthand_property_identifier_pattern", "property_identifier"])).map (·.text)

/-- The names that the declarator around a call gives to its result. -/
def declaredNames (l : Located) : List Text :=
  match l.parent?.filter (·.kind == "variable_declarator") with
  | none => []
  | some declarator => ((declarator.child? "name").map patternNames).getD []

/-- **The import of a call of `require`** with a fixed source. -/
def ofRequire? (l : Located) : Option Import :=
  let n := l.node
  if n.kind == "call_expression" &&
      (n.child? "function").any (fun f => f.kind == "identifier" && f.text == "require") then
    (n.arguments.head?.bind Node.stringValue?).map fun source =>
      { source, names := declaredNames l, line := n.line }
  else none

end Imports

/-- **The imports of a file** with this tree. -/
def importsOf (root : Node) : List Import :=
  let statements := root.nodes.filterMap Imports.ofStatement?
  let requires := (root.places []).filterMap Imports.ofRequire?
  (statements ++ requires).mergeSort fun a b => a.line ≤ b.line

end SuiteAudit
