import SuiteAudit.Decimal.Shortest

/-!
# The text of numbers

Doubles are written with the fewest digits that read back, with a point or an exponent always in
sight. From `10 ^ -4` up to `10 ^ 16` they are written positionally, beyond that with an exponent of
a sign and at least two digits.
-/

namespace SuiteAudit.Decimal

/-- The least exponent that is written positionally. -/
def leastPositional : Int := -4

/-- The greatest exponent that is written positionally. -/
def greatestPositional : Int := 15

/-- The text of an exponent: a sign and at least two digits. -/
def exponentText (e : Int) : List Char :=
  let digits := Nat.toDigits 10 e.natAbs
  (if e < 0 then '-' else '+') :: if digits.length < 2 then '0' :: digits else digits

/-- The text of a decimal magnitude. -/
def Scientific.text (s : Scientific) : List Char :=
  if s.exponent < leastPositional || greatestPositional < s.exponent then
    match s.digits with
    | [] => []
    | d :: [] => d :: 'e' :: exponentText s.exponent
    | d :: rest => d :: '.' :: rest ++ 'e' :: exponentText s.exponent
  else if s.exponent < 0 then
    '0' :: '.' :: List.replicate (s.exponent.natAbs - 1) '0' ++ s.digits
  else
    let whole := s.exponent.toNat + 1
    let front := s.digits.take whole
    let back := s.digits.drop whole
    front ++ List.replicate (whole - front.length) '0' ++
      '.' :: if back.isEmpty then ['0'] else back

/-- **The text of a double.** -/
def floatText (x : Float) : String :=
  match Binary64.ofFloat? x with
  | some b => String.ofList ((if b.negative then ['-'] else []) ++ (shortest b).text)
  | none => if x.isNaN then "nan" else if x < 0 then "-inf" else "inf"

/-- **A number as a message shows it**: all digits of a whole double and no point, the text of any
other. -/
def plainText (x : Float) : String :=
  match Binary64.ofFloat? x with
  | some b => if b.isWhole then toString b.whole else floatText x
  | none => floatText x

end SuiteAudit.Decimal
