import SuiteAudit.Syntax.Spelling

/-!
# Member accesses and call chains

An access such as `a.b` or `a['b']` has a property and an object, and the object may be an access or
a call again. A dotted path is such a chain made of names alone; the links of a chain are its names
together with the argument lists of those that are called.
-/

namespace SuiteAudit.Syntax

/-! ### Accesses -/

namespace Node

/-- Whether the node accesses a property. -/
def isAccess (n : Node) : Bool :=
  n.kind == "member_expression" || n.kind == "subscript_expression"

/-- The property of a computed access: the content of a string, else the text of the index. -/
def indexName (n : Node) : Text :=
  match n.child? "index" with
  | none => ""
  | some index => index.stringValue?.getD index.compact

/-- **The property that an access names**, a computed one included. -/
def propertyName (n : Node) : Text :=
  if n.kind == "member_expression" then n.childText "property"
  else if n.kind == "subscript_expression" then n.indexName
  else ""

/-- The property of an access if its name is fixed: that of a member, or a string between
brackets. -/
def fixedProperty? (n : Node) : Option Text :=
  if n.kind == "member_expression" then some (n.childText "property")
  else if n.kind == "subscript_expression" then (n.child? "index").bind stringValue?
  else none

end Node

/-! ### Paths -/

mutual

/-- **The dotted path of a chain of names**, its root first. A string between brackets is a name
too; a chain of anything else has no path. -/
def Node.path? : Node → Option (List Text)
  | .mk label children =>
    let n := Node.mk label children
    if n.isOneOf ["identifier", "this", "property_identifier"] then some [label.text]
    else
      match n.fixedProperty? with
      | none => none
      | some name => (objectPath? children).map (· ++ [name])

/-- The path of the object among the children of an access; a missing object adds nothing. -/
def objectPath? : List Node → Option (List Text)
  | [] => some []
  | c :: rest => if c.field == "object" then c.path? else objectPath? rest

end

mutual

/-- **The variable at the root of an expression**, looking through accesses and parentheses. -/
def Node.rootName? : Node → Option Text
  | .mk label children =>
    let n := Node.mk label children
    if label.kind == "identifier" then some label.text
    else if n.isAccess then objectRootName? children
    else if label.kind == "parenthesized_expression" then namedRootName? children
    else none

/-- The root of the object among the children of an access. -/
def objectRootName? : List Node → Option Text
  | [] => none
  | c :: rest => if c.field == "object" then c.rootName? else objectRootName? rest

/-- The root of the first named child. -/
def namedRootName? : List Node → Option Text
  | [] => none
  | c :: rest => if c.named then c.rootName? else namedRootName? rest

end

namespace Node

/-- The path of what a call calls. -/
def calleePath? (call : Node) : Option (List Text) :=
  (call.child? "function").bind path?

/-- **What a call calls**: its dotted path, else its text on one line. -/
def calleeText (call : Node) : Text :=
  match call.child? "function" with
  | none => ""
  | some callee =>
    match callee.path? with
    | some path => Text.join "." path
    | none => callee.compact

end Node

/-! ### Chains -/

/-- **A link of a chain**: its name, and its argument list if it is called. -/
structure Link where
  name : Text
  args : Option Node := none
deriving Repr, Inhabited

/-- The child that fills a field in a list of children. -/
def fieldOf? (field : String) (children : List Node) : Option Node :=
  children.find? (·.field == field)

mutual

/-- **The links of a chain** in the order in which they are written: `a.b(x).c` has the links `a`,
`b(x)` and `c`. What is not a name is a link without one. -/
def Node.links : Node → List Link
  | .mk label children =>
    let n := Node.mk label children
    if label.kind == "call_expression" then calleeLinks (fieldOf? "arguments" children) children
    else if n.isAccess then objectLinks children ++ [{ name := n.propertyName }]
    else if n.isOneOf ["identifier", "this"] then [{ name := label.text }]
    else [{ name := "" }]

/-- The links of a call with these arguments: those before what it calls, and that itself. A call
without a callee has none. -/
def calleeLinks (args : Option Node) : List Node → List Link
  | [] => []
  | .mk label children :: rest =>
    if label.field == "function" then
      let callee := Node.mk label children
      if callee.isAccess then objectLinks children ++ [{ name := callee.propertyName, args }]
      else if label.kind == "identifier" then [{ name := label.text, args }]
      else [{ name := "", args }]
    else calleeLinks args rest

/-- The links of the object among the children of an access. -/
def objectLinks : List Node → List Link
  | [] => []
  | c :: rest => if c.field == "object" then c.links else objectLinks rest

end

/-- **Whether a chain ends here**: it is neither the object of an access nor what a call calls. -/
def Located.endsChain (l : Located) : Bool :=
  match l.parent? with
  | none => true
  | some parent =>
    let isFilledByThis (field : String) : Bool :=
      (parent.child? field).any (·.extent == l.node.extent)
    if parent.isAccess then !isFilledByThis "object"
    else if parent.kind == "call_expression" then !isFilledByThis "function"
    else true

end SuiteAudit.Syntax
