import SuiteAudit.Syntax.Located
import SuiteAudit.Suite.Literal
import SuiteAudit.Decimal.Numeral

/-!
# What nodes spell

Spans, texts and values read off single nodes: the content of a string, the value of a number, the
kind of a literal, and the number of statements in a body.
-/

namespace SuiteAudit.Syntax

namespace Node

/-! ### Text -/

/-- The text of the child that fills a field; empty if none does. -/
def childText (n : Node) (field : String) : String :=
  ((n.child? field).map text).getD ""

/-- The text on one line. -/
def compact (n : Node) : Text :=
  Text.compact n.text

/-- The text of a child on one line; empty if there is no such child. -/
def childCompact (n : Node) (field : String) : Text :=
  ((n.child? field).map compact).getD ""

/-- The line on which the node starts, counted from one. -/
def line (n : Node) : Nat :=
  n.label.start.row + 1

/-- **The span of the node.** -/
def span (n : Node) : Span :=
  .of (n.label.start.row + 1) (n.label.start.column + 1) (n.label.stop.row + 1)
    (n.label.stop.column + 1)

/-- **The content of a string**, or of a template in which nothing is substituted. Escapes stay as
they are written. -/
def stringValue? (n : Node) : Option Text :=
  if n.kind == "string" then some (Text.inner n.text)
  else if n.kind == "template_string" then
    if n.children.any (·.kind == "template_substitution") then none else some (Text.inner n.text)
  else none

/-- **A title as a reader sees it**: the content of a string or template, else the text on one
line. -/
def title (n : Node) : Text :=
  match n.stringValue? with
  | some value => value
  | none => if n.kind == "template_string" then Text.inner n.text else n.compact

/-- The text of the operator of an expression. -/
def operator (n : Node) : String :=
  n.childText "operator"

end Node

/-! ### Numbers -/

/-- **A whole number beyond the doubles**, so that it has no value. -/
structure NumberTooLarge where
deriving Repr, DecidableEq

/-- What is said of such a number. -/
def NumberTooLarge.message (_ : NumberTooLarge) : String :=
  Decimal.beyondDoubles

/-- The base that two characters in front of a numeral announce. -/
def baseOf? (mark : Char) : Option Nat :=
  match mark with
  | 'x' | 'X' => some 16
  | 'o' | 'O' => some 8
  | 'b' | 'B' => some 2
  | _ => none

/-- The value of a numeral in a base other than ten. -/
def wholeValue (base : Nat) (digits : List Char) : Except NumberTooLarge (Option Float) :=
  match Decimal.readBase? base digits with
  | none => .ok none
  | some n =>
    match Decimal.ofInt? (Int.ofNat n) with
    | some x => .ok (some x)
    | none => .error {}

/-- **The value of a numeral** as source code writes it: low lines do not count, nor does an `n` at
the end; a leading `0x`, `0o` or `0b` gives the base. -/
def numeralValue (text : String) : Except NumberTooLarge (Option Float) :=
  let chars := text.toList.filter (· != '_')
  let chars := (chars.reverse.dropWhile (· == 'n')).reverse
  let decimal := Decimal.readFloat? (String.ofList chars)
  match chars with
  | '0' :: mark :: digits =>
    match baseOf? mark with
    | some base => wholeValue base digits
    | none => .ok decimal
  | _ => .ok decimal

/-- The value after a sign. -/
def signed (negative : Bool) (value : Option Float) : Option Float :=
  if negative then value.map fun x => -x else value

mutual

/-- **The value of a number**, with any signs in front of it; none for other nodes. -/
def Node.numberValue : Node → Except NumberTooLarge (Option Float)
  | .mk label children =>
    if label.kind == "unary_expression" then
      let sign := (Node.mk label children).operator
      if sign == "-" || sign == "+" then
        (argumentValue children).map (signed (sign == "-"))
      else .ok none
    else if label.kind == "number" then numeralValue label.text
    else .ok none

/-- The value of the argument among the children of a unary expression. -/
def argumentValue : List Node → Except NumberTooLarge (Option Float)
  | [] => .ok none
  | c :: rest => if c.field == "argument" then c.numberValue else argumentValue rest

end

/-! ### Literals -/

/-- The literal that a node is, parentheses and numbers apart. -/
def Node.plainLiteral? (n : Node) : Option Literal :=
  if n.kind == "string" then some (.string n.stringValue?)
  else if n.kind == "template_string" then n.stringValue?.map fun s => .template (some s)
  else if n.kind == "true" || n.kind == "false" then some (.boolean (n.kind == "true"))
  else if n.kind == "null" then some .null
  else if n.kind == "undefined" || n.kind == "identifier" && n.text == "undefined" then
    some .undefined
  else if n.kind == "array" then some .array
  else if n.kind == "object" then some .object
  else none

mutual

/-- **The literal that a node is**, if it is one. Parentheses around a single expression do not
count. -/
def Node.literal? : Node → Except NumberTooLarge (Option Literal)
  | .mk label children =>
    let n := Node.mk label children
    if label.kind == "parenthesized_expression" && n.namedChildren.length == 1 then
      soleLiteral children
    else
      n.numberValue.map fun
        | some x => some (.number (some x))
        | none => n.plainLiteral?

/-- The literal that the first named one of some nodes is. -/
def soleLiteral : List Node → Except NumberTooLarge (Option Literal)
  | [] => .ok none
  | c :: rest => if c.named then c.literal? else soleLiteral rest

end

/-! ### Calls and bodies -/

namespace Node

/-- **The arguments of a call** apart from comments. -/
def arguments (call : Node) : List Node :=
  ((call.child? "arguments").map operands).getD []

/-- The kinds of node that are functions. -/
def functionKinds : List String :=
  ["arrow_function", "function", "function_expression", "function_declaration",
    "generator_function", "generator_function_declaration", "method_definition"]

/-- Whether the node is a function. -/
def isFunction (n : Node) : Bool :=
  n.isOneOf functionKinds

/-- Whether a function is marked as asynchronous. -/
def isAsync (n : Node) : Bool :=
  n.children.any (·.kind == "async")

/-- The body of a function. -/
def body? (n : Node) : Option Node :=
  n.child? "body"

/-- **How many statements a body has**; one if it is a single expression. -/
def statementCount (body : Node) : Nat :=
  if body.kind == "statement_block" then body.operands.length else 1

end Node

end SuiteAudit.Syntax
