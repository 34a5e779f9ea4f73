import SuiteAudit.Decimal.Numeral
import SuiteAudit.Json.Value

/-!
# Reading JSON

A recursive reader over characters. Besides the standard it takes the words `NaN`, `Infinity` and
`-Infinity`; of a repeated key the last value counts; a number with a point or an exponent is a
double, any other a whole number of a limited number of digits. Strings are read as UTF-16 units, so
half of a surrogate pair may stand alone. `fuel` bounds the nesting; the length of the text always
suffices. Of several mistakes the first in the text is reported.
-/

namespace SuiteAudit.Json

/-- **Why a text holds no value.** -/
inductive ParseError where
  | malformed
  | tooManyDigits (cause : Decimal.TooManyDigits)
deriving Repr, DecidableEq

/-! ### Tokens -/

/-- A blank between tokens. -/
def isSpace (c : Char) : Bool :=
  c == ' ' || c == '\t' || c == '\n' || c == '\r'

/-- The text without leading blanks. -/
def skipSpace (s : List Char) : List Char :=
  s.dropWhile isSpace

/-- What follows `word`, if the text starts with it. -/
def afterWord? (word : String) (s : List Char) : Option (List Char) :=
  if word.toList.isPrefixOf s then some (s.drop word.length) else none

/-- The value of four hexadecimal digits, and what follows them. -/
def takeHex4? : List Char → Option (Nat × List Char)
  | a :: b :: c :: d :: rest => (Decimal.readBase? 16 [a, b, c, d]).map fun n => (n, rest)
  | _ => none

/-- The character that a one-letter escape stands for. -/
def simpleEscape? : Char → Option Char
  | '"' => some '"'
  | '\\' => some '\\'
  | '/' => some '/'
  | 'b' => some '\x08'
  | 'f' => some '\x0c'
  | 'n' => some '\n'
  | 'r' => some '\r'
  | 't' => some '\t'
  | _ => none

/-- The units of a string after those `read` (in reverse), and what follows its closing quote.
Unescaped characters stand for themselves, whatever their plane. A text as long as the string is
fuel enough. -/
def takeUnits? : (fuel : List Char) → (read : List Nat) → List Char →
    Option (List Nat × List Char)
  | [], _, _ => none
  | _ :: fuel, read, s =>
    match s with
    | '"' :: rest => some (read.reverse, rest)
    | '\\' :: 'u' :: rest =>
      match takeHex4? rest with
      | some (n, rest) => takeUnits? fuel (n :: read) rest
      | none => none
    | '\\' :: letter :: rest =>
      match simpleEscape? letter with
      | some c => takeUnits? fuel (c.toNat :: read) rest
      | none => none
    | c :: rest =>
      if c.toNat < 0x20 || c == '\\' then none else takeUnits? fuel (c.toNat :: read) rest
    | [] => none

/-- The rest of a string, and what follows its closing quote. Two halves of a surrogate pair in a
row are one character. -/
def takeString (s : List Char) : Except ParseError (Text × List Char) :=
  match takeUnits? s [] s with
  | some (units, rest) => .ok (.ofUnits units, rest)
  | none => .error .malformed

/-! ### Numbers -/

/-- The ASCII digits in front, and what follows. -/
def takeAsciiDigits (s : List Char) : List Nat × List Char :=
  ((s.takeWhile Char.isDigit).map (·.toNat - 0x30), s.dropWhile Char.isDigit)

/-- The digits after a point, and what follows; none if there is no point with digits. -/
def takePoint? : List Char → Option (List Nat × List Char)
  | '.' :: s =>
    match takeAsciiDigits s with
    | ([], _) => none
    | found => some found
  | _ => none

/-- The exponent, and what follows; none if there is no complete one. -/
def takePower? : List Char → Option (Int × List Char)
  | mark :: s =>
    if mark == 'e' || mark == 'E' then
      let (negative, s) := match s with
        | '-' :: s => (true, s)
        | '+' :: s => (false, s)
        | s => (false, s)
      match takeAsciiDigits s with
      | ([], _) => none
      | (digits, rest) =>
        let e := Int.ofNat (Decimal.ofDigits digits)
        some (if negative then -e else e, rest)
    else none
  | [] => none

/-- A number without its sign, and what follows. A leading zero stands alone. -/
def takeMagnitude (negative : Bool) (s : List Char) : Except ParseError (Json × List Char) :=
  let (digits, rest) := takeAsciiDigits s
  let whole? := match digits with
    | [] => none
    | 0 :: _ => some ([0], s.tail)
    | _ => some (digits, rest)
  match whole? with
  | none => .error .malformed
  | some (whole, rest) =>
    let point? := takePoint? rest
    let afterPoint := (point?.map (·.2)).getD rest
    let power? := takePower? afterPoint
    if point?.isNone && power?.isNone then
      match Decimal.wholeOfDigits negative whole with
      | .ok n => .ok (.int n, rest)
      | .error e => .error (.tooManyDigits e)
    else
      let part := (point?.map (·.1)).getD []
      let e := (power?.map (·.1)).getD 0
      let x := Decimal.ofScientific (Decimal.ofDigits (whole ++ part)) (e - Int.ofNat part.length)
      .ok (.float (if negative then -x else x), (power?.map (·.2)).getD afterPoint)

/-- A number or one of the words for numbers, and what follows. -/
def takeNumber : List Char → Except ParseError (Json × List Char)
  | '-' :: rest =>
    match afterWord? "Infinity" rest with
    | some rest => .ok (.float (-1 / 0), rest)
    | none => takeMagnitude true rest
  | s => takeMagnitude false s

/-- A word that is a value, and what follows. -/
def takeWord? (s : List Char) : Option (Json × List Char) :=
  let words : List (String × Json) :=
    [("null", .null), ("true", .bool true), ("false", .bool false), ("NaN", .float (0 / 0)),
      ("Infinity", .float (1 / 0))]
  words.findSome? fun (word, value) => (afterWord? word s).map fun rest => (value, rest)

/-! ### Values -/

mutual

/-- A value, and what follows it. -/
def takeValue : (fuel : Nat) → List Char → Except ParseError (Json × List Char)
  | 0, _ => .error .malformed
  | fuel + 1, s =>
    match s with
    | '"' :: rest => (takeString rest).map fun (text, rest) => (.string text, rest)
    | '[' :: rest =>
      match skipSpace rest with
      | ']' :: rest => .ok (.array [], rest)
      | rest => takeElements fuel [] rest
    | '{' :: rest =>
      match skipSpace rest with
      | '}' :: rest => .ok (.object [], rest)
      | rest => takeFields fuel [] rest
    | s =>
      match takeWord? s with
      | some found => .ok found
      | none => takeNumber s

/-- The elements of an array from the next one on, after those `read` (in reverse). -/
def takeElements :
    (fuel : Nat) → (read : List Json) → List Char → Except ParseError (Json × List Char)
  | 0, _, _ => .error .malformed
  | fuel + 1, read, s =>
    match takeValue fuel s with
    | .error e => .error e
    | .ok (value, rest) =>
      match skipSpace rest with
      | ',' :: rest => takeElements fuel (value :: read) (skipSpace rest)
      | ']' :: rest => .ok (.array (value :: read).reverse, rest)
      | _ => .error .malformed

/-- The fields of an object from the next one on, after those `read`. -/
def takeFields : (fuel : Nat) → (read : List (Text × Json)) → List Char →
    Except ParseError (Json × List Char)
  | 0, _, _ => .error .malformed
  | fuel + 1, read, s =>
    match s with
    | '"' :: rest =>
      match takeString rest with
      | .error e => .error e
      | .ok (key, rest) =>
        match skipSpace rest with
        | ':' :: rest =>
          match takeValue fuel (skipSpace rest) with
          | .error e => .error e
          | .ok (value, rest) =>
            match skipSpace rest with
            | ',' :: rest => takeFields fuel (setField key value read) (skipSpace rest)
            | '}' :: rest => .ok (.object (setField key value read), rest)
            | _ => .error .malformed
        | _ => .error .malformed
    | _ => .error .malformed

end

/-- **The value that a text holds**, with nothing but blanks around it. -/
def parse (text : String) : Except ParseError Json :=
  let s := text.toList
  match takeValue (2 * s.length + 2) (skipSpace s) with
  | .error e => .error e
  | .ok (value, rest) => if (skipSpace rest).isEmpty then .ok value else .error .malformed

end SuiteAudit.Json
