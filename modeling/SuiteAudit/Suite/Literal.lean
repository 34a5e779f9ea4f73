import SuiteAudit.Suite.Span
import SuiteAudit.Text.Chars

/-!
# Literals

The literals that tests pass to calls, and the edge classes that some of them belong to: zero,
negative numbers, empty texts, null and undefined, and empty collections.
-/

namespace SuiteAudit

/-- **A literal.** A number or text whose value could not be read has none. -/
inductive Literal where
  | number (value : Option Float)
  | string (value : Option Text)
  | template (value : Option Text)
  | boolean (value : Bool)
  | null
  | undefined
  | array
  | object
  /-- A literal of a kind that the audit does not look into. -/
  | other (kind : Text)
deriving Repr, Inhabited

namespace Literal

/-- The name of a literal's kind. -/
def kind : Literal → Text
  | number _ => "number"
  | string _ => "string"
  | template _ => "template"
  | boolean _ => "boolean"
  | null => "null"
  | undefined => "undefined"
  | array => "array"
  | object => "object"
  | other kind => kind

/-- The text of a string or template. -/
def text? : Literal → Option Text
  | string value | template value => value
  | _ => none

/-- The value of a number. -/
def number? : Literal → Option Float
  | number value => value
  | _ => none

/-- Whether the literal is a number. -/
def isNumber : Literal → Bool
  | number _ => true
  | _ => false

/-- Whether the literal is a string or template. -/
def isText : Literal → Bool
  | string _ | template _ => true
  | _ => false

end Literal

/-- **What a literal is passed for**: as input to the code under test, as the subject or the
expected value of an assertion, or by the way. -/
inductive LiteralRole where
  | input
  | subject
  | expected
  | incidental
  /-- For a purpose that the audit does not know. -/
  | other (name : Text)
deriving Repr, DecidableEq, Inhabited

namespace LiteralRole

/-- The name of a role. -/
def name : LiteralRole → Text
  | input => "input"
  | subject => "subject"
  | expected => "expected"
  | incidental => "incidental"
  | other name => name

/-- The role of a name. -/
def ofName (s : Text) : LiteralRole :=
  ([input, subject, expected, incidental].find? (·.name == s)).getD (other s)

/-- Whether literals of this role feed the code under test. -/
def feedsCode : LiteralRole → Bool
  | input | subject => true
  | _ => false

end LiteralRole

/-- **The edge classes of inputs.** -/
inductive EdgeKind where
  | zero
  | negative
  | emptyString
  | nullish
  | emptyCollection
deriving Repr, DecidableEq, Inhabited

/-- The name of an edge class. -/
def EdgeKind.name : EdgeKind → Text
  | zero => "zero"
  | negative => "negative"
  | emptyString => "empty-string"
  | nullish => "nullish"
  | emptyCollection => "empty-collection"

/-- **A literal passed to a call**: its text, where it stands, and the test, callee and argument
place that it belongs to. Below zero there is no test. -/
structure LiteralArg where
  literal : Literal
  text : Text
  span : Span := .of 1
  testIndex : Int := 0
  callee : Text := ""
  position : Int := 0
  role : LiteralRole := .input
deriving Repr, Inhabited

namespace LiteralArg

/-- Whether the text is that of an empty collection. -/
def isEmptyCollection (a : LiteralArg) : Bool :=
  let text := Text.through (List.filter (· != ' ')) a.text
  text == "[]" || text == "\x7b\x7d"

/-- Whether the literal is an edge value. -/
def isEdge (a : LiteralArg) : Bool :=
  match a.literal with
  | .number value => value.any fun x => x ≤ 0
  | .string value | .template value => value == some ""
  | .null | .undefined => true
  | .array | .object => a.isEmptyCollection
  | .boolean _ | .other _ => false

/-- **The edge class of the literal**, if it has one. -/
def edgeKind? (a : LiteralArg) : Option EdgeKind :=
  match a.literal with
  | .number none => none
  | .number (some x) => if x == 0 then some .zero else if x < 0 then some .negative else none
  | .string value | .template value => if value == some "" then some .emptyString else none
  | .null | .undefined => some .nullish
  | .array | .object => if a.isEmptyCollection then some .emptyCollection else none
  | .boolean _ | .other _ => none

end LiteralArg

/-- The edge classes among the literals, each once, in the order in which they appear. -/
def edgeKinds (args : List LiteralArg) : List EdgeKind :=
  (args.filterMap LiteralArg.edgeKind?).eraseDups

end SuiteAudit
