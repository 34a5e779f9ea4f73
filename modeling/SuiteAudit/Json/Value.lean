import SuiteAudit.Decimal.Written
import SuiteAudit.Text.Quoted

/-!
# JSON values

A value as a configuration file holds it. Whole numbers and decimal ones stay apart, whole numbers
are exact whatever their size, strings and keys may hold halves of surrogate pairs, and an object
keeps the order in which its keys first came.
-/

namespace SuiteAudit

/-- **A JSON value.** -/
inductive Json where
  | null
  | bool (b : Bool)
  | int (n : Int)
  | float (x : Float)
  | string (s : Text)
  | array (elements : List Json)
  | object (fields : List (Text × Json))
deriving Inhabited, Repr

namespace Json

/-! ### Objects -/

/-- The fields with `key` set to `value`: in its old place, or at the end if the key is new. -/
def setField (key : Text) (value : Json) :
    List (Text × Json) → List (Text × Json)
  | [] => [(key, value)]
  | (k, v) :: rest => if k == key then (k, value) :: rest else (k, v) :: setField key value rest

/-- The value of a field. -/
def field? (key : Text) : Json → Option Json
  | object fields => (fields.find? (·.1 == key)).map (·.2)
  | _ => none

/-! ### Text of a value in a message -/

/-- The word for a value's kind in a message about conversions. -/
def kindWord : Json → Text
  | null => "NoneType"
  | bool _ => "bool"
  | int _ => "int"
  | float _ => "float"
  | string _ => "str"
  | array _ => "list"
  | object _ => "dict"

mutual

/-- **The value as a message quotes it**: text between quotes, every double with its point. -/
def quoted : Json → Text
  | null => "None"
  | bool true => "True"
  | bool false => "False"
  | int n => toString n
  | float x => Decimal.floatText x
  | string s => s.quoted
  | array elements => "[" ++ Text.join ", " (quotedElements elements) ++ "]"
  | object fields => "\x7b" ++ Text.join ", " (quotedFields fields) ++ "\x7d"

/-- The elements of an array, each as a message quotes it. -/
def quotedElements : List Json → List Text
  | [] => []
  | element :: rest => element.quoted :: quotedElements rest

/-- The fields of an object, each as a message quotes it. -/
def quotedFields : List (Text × Json) → List Text
  | [] => []
  | (key, value) :: rest => (key.quoted ++ ": " ++ value.quoted) :: quotedFields rest

end

/-- The value as plain text: a string is its own text. -/
def plain : Json → Text
  | string s => s
  | value => value.quoted

end Json

end SuiteAudit
