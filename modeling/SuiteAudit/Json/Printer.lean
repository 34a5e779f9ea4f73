import SuiteAudit.Json.Value

/-!
# Writing JSON

One canonical text per value: fields sorted by key, `", "` and `": "` between tokens, and everything
beyond ASCII escaped in UTF-16 code units. Two values that differ in more than the order of their
fields have different texts.
-/

namespace SuiteAudit.Json

/-- The escape of one code unit. -/
def unitEscape (n : Nat) : List Char :=
  '\\' :: 'u' :: Text.hexDigits n 4

/-- A code point in one or two code units. -/
def codeUnits (n : Nat) : List Nat :=
  if n < 0x10000 then [n]
  else [0xD800 + (n - 0x10000) / 0x400, 0xDC00 + (n - 0x10000) % 0x400]

/-- One character inside a string. -/
def escapeChar (c : Char) : List Char :=
  if c == '"' || c == '\\' then ['\\', c]
  else if c == '\n' then ['\\', 'n']
  else if c == '\r' then ['\\', 'r']
  else if c == '\t' then ['\\', 't']
  else if c == '\x08' then ['\\', 'b']
  else if c == '\x0c' then ['\\', 'f']
  else if 0x20 ≤ c.toNat && c.toNat < 0x7F then [c]
  else (codeUnits c.toNat).flatMap unitEscape

/-- One code point inside a string; half of a surrogate pair is a unit of its own. -/
def escapePoint : CodePoint → List Char
  | .char c => escapeChar c
  | .surrogate s => unitEscape s.code

/-- The text of a string. -/
def stringText (s : Text) : String :=
  String.ofList ('"' :: s.points.flatMap escapePoint ++ ['"'])

/-- The text of a double; infinities and not-a-number are words. -/
def floatText (x : Float) : String :=
  if x.isNaN then "NaN"
  else if x.isInf then (if x < 0 then "-Infinity" else "Infinity")
  else Decimal.floatText x

mutual

/-- **The canonical text of a value.** -/
def text : Json → String
  | null => "null"
  | bool b => if b then "true" else "false"
  | int n => toString n
  | float x => floatText x
  | string s => stringText s
  | array elements => "[" ++ String.intercalate ", " (elementTexts elements) ++ "]"
  | object fields =>
    let written := (fieldTexts fields).mergeSort fun a b => Text.le a.1 b.1
    "\x7b" ++ String.intercalate ", " (written.map (·.2)) ++ "\x7d"

/-- The texts of the elements of an array. -/
def elementTexts : List Json → List String
  | [] => []
  | element :: rest => element.text :: elementTexts rest

/-- The keys of an object with the texts of their fields. -/
def fieldTexts : List (Text × Json) → List (Text × String)
  | [] => []
  | (key, value) :: rest => (key, stringText key ++ ": " ++ value.text) :: fieldTexts rest

end

end SuiteAudit.Json
