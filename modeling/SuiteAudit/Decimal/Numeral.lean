import SuiteAudit.Decimal.Rounded
import SuiteAudit.Text.Case

/-!
# Reading numerals

Numbers that users write as text. Blanks around a numeral do not count, digits may be those of any
script, and a single low line may stand between two digits. A whole numeral has a sign and a limited
number of digits; a decimal one may have a point, an exponent, or be one of the words for infinity
and not-a-number.
-/

namespace SuiteAudit.Decimal

/-! ### Digits -/

/-- The number that digits of a base stand for, after the digits that gave `value`. -/
def ofDigitsFrom (base value : Nat) (digits : List Nat) : Nat :=
  digits.foldl (fun n d => n * base + d) value

/-- The number that decimal digits stand for. -/
def ofDigits (digits : List Nat) : Nat :=
  ofDigitsFrom 10 0 digits

/-- The longest run of digits in front, with single low lines between digits, and what follows. -/
def takeDigits : List CodePoint → List Nat × List CodePoint
  | .char '_' :: rest => ([], '_' :: rest)
  | c :: .char '_' :: d :: rest =>
    match Text.digit? c with
    | none => ([], c :: '_' :: d :: rest)
    | some v =>
      if Text.isDigit d then
        let (digits, rest) := takeDigits (d :: rest)
        (v :: digits, rest)
      else ([v], '_' :: d :: rest)
  | c :: rest =>
    match Text.digit? c with
    | none => ([], c :: rest)
    | some v =>
      let (digits, rest) := takeDigits rest
      (v :: digits, rest)
  | [] => ([], [])

/-- A sign in front, `true` for minus, and what follows. -/
def takeSign : List CodePoint → Bool × List CodePoint
  | .char '-' :: rest => (true, rest)
  | .char '+' :: rest => (false, rest)
  | s => (false, s)

/-- A blank around a numeral: any but the four information separators. -/
def isMargin (p : CodePoint) : Bool :=
  Text.isBlank p && !(0x1C ≤ p.code && p.code < 0x20)

/-- The text without the blanks around a numeral. -/
def withoutMargins (s : Text) : List CodePoint :=
  Chars.stripBy isMargin s.points

/-! ### Whole numerals -/

/-- How many digits a whole numeral may have. -/
def digitLimit : Nat := 4300

/-- **A whole numeral with more digits than it may have.** -/
structure TooManyDigits where
  count : Nat
deriving Repr, DecidableEq

/-- What is said of such a numeral. -/
def TooManyDigits.message (e : TooManyDigits) : String :=
  s!"Exceeds the limit ({digitLimit} digits) for integer string conversion: " ++
    s!"value has {e.count} digits; use sys.set_int_max_str_digits() to increase the limit"

/-- Why a text stands for no whole number. -/
inductive NotWhole where
  | noNumeral
  | tooLong (cause : TooManyDigits)
deriving Repr, DecidableEq

/-- The whole number of some digits, if they are not too many. -/
def wholeOfDigits (negative : Bool) (digits : List Nat) : Except TooManyDigits Int :=
  if digitLimit < digits.length then .error { count := digits.length }
  else
    let magnitude := Int.ofNat (ofDigits digits)
    .ok (if negative then -magnitude else magnitude)

/-- **The whole number that a text stands for.** Too many digits are noticed before what follows
them, except for a low line, which belongs to the digits. -/
def readWhole (s : Text) : Except NotWhole Int :=
  let (negative, rest) := takeSign (withoutMargins s)
  match takeDigits rest with
  | ([], _) => .error .noNumeral
  | (_, .char '_' :: _) => .error .noNumeral
  | (digits, rest) =>
    match wholeOfDigits negative digits with
    | .error e => .error (.tooLong e)
    | .ok n => if rest.isEmpty then .ok n else .error .noNumeral

/-- The value of a digit of a base up to sixteen. -/
def baseDigit? (base : Nat) (c : Char) : Option Nat :=
  let value? :=
    if c.isDigit then some (c.toNat - 0x30)
    else if 'a' ≤ c && c ≤ 'f' then some (c.toNat - 0x57)
    else if 'A' ≤ c && c ≤ 'F' then some (c.toNat - 0x37)
    else none
  value?.filter (· < base)

/-- The number that the ASCII digits of a base stand for; none for other characters or no digits. -/
def readBase? (base : Nat) (digits : List Char) : Option Nat :=
  if digits.isEmpty then none
  else (digits.mapM (baseDigit? base)).map (ofDigitsFrom base 0)

/-! ### Decimal numerals -/

/-- **The double nearest to `mantissa * 10 ^ exponent`.** Magnitudes far outside the range of
doubles are settled without the power. -/
def ofScientific (mantissa : Nat) (exponent : Int) : Float :=
  let size := Int.ofNat mantissa.log2 / 4 + exponent
  if mantissa == 0 || exponent + Int.ofNat mantissa.log2 < -1100 then 0
  else if size > 400 then 1 / 0
  else
    quotient (Int.ofNat (mantissa * tenPow exponent.toNat)) (Int.ofNat (tenPow (-exponent).toNat))

/-- The exponent of a decimal numeral, and what follows it; zero if there is none. -/
def takeExponent : List CodePoint → Int × List CodePoint
  | mark :: rest =>
    if mark == 'e' || mark == 'E' then
      let (negative, digits) := takeSign rest
      match takeDigits digits with
      | ([], _) => (0, mark :: rest)
      | (ds, rest) => (if negative then -Int.ofNat (ofDigits ds) else Int.ofNat (ofDigits ds), rest)
    else (0, mark :: rest)
  | [] => (0, [])

/-- The magnitude of a decimal numeral with a digit on some side of its point. -/
def readMagnitude? (s : List CodePoint) : Option Float :=
  let (whole, rest) := takeDigits s
  let (part, rest) := match rest with
    | .char '.' :: rest => takeDigits rest
    | rest => ([], rest)
  if whole.isEmpty && part.isEmpty then none
  else
    match takeExponent rest with
    | (e, []) => some (ofScientific (ofDigits (whole ++ part)) (e - Int.ofNat part.length))
    | _ => none

/-- **The double that a text stands for**, if it is a decimal numeral. -/
def readFloat? (s : Text) : Option Float :=
  let (negative, rest) := takeSign (withoutMargins s)
  let word := rest.map fun p => p.char?.map Char.toLower
  let isWord (name : String) : Bool := word == name.toList.map some
  let magnitude? :=
    if isWord "inf" || isWord "infinity" then some (1 / 0)
    else if isWord "nan" then some (0 / 0)
    else readMagnitude? rest
  magnitude?.map fun x => if negative then -x else x

end SuiteAudit.Decimal
