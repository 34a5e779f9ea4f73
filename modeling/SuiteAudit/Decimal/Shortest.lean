import SuiteAudit.Decimal.Binary64

/-!
# The shortest decimal that reads back

Every real in an interval around a double rounds to it. Among the decimals in that interval the
shortest are the best text for the double, and of those the one nearest to it. The decimals of
`count` digits form a grid; if one of its points lies in the interval, so does one of the two
neighbours of the double, so only those two are tried, for one digit, two digits, and so on up to
seventeen, which always suffice.
-/

namespace SuiteAudit.Decimal

/-- **The reals that round to a double**: from `(4m - below) * unit` to `(4m + 2) * unit` where the
double is `4m * unit`, ends included if `closed` holds, and `unit` is `unitNum / unitDen`. -/
structure Neighbourhood where
  centre : Nat
  below : Nat
  closed : Bool
  unitNum : Nat
  unitDen : Nat

namespace Neighbourhood

/-- The neighbourhood of a finite positive double. Just above a power of two the gap below is half
the gap above; an even mantissa takes the ends of the interval. -/
def ofBinary64 (b : Binary64) : Neighbourhood :=
  let quarter := b.exponent - 2
  { centre := 4 * b.mantissa
    below := if b.mantissa == twoPow 52 && b.exponent != -1074 then 1 else 2
    closed := b.mantissa % 2 == 0
    unitNum := twoPow quarter.toNat
    unitDen := twoPow (-quarter).toNat }

/-- Whether the decimal `k * 10 ^ e` rounds to the double. -/
def holds (r : Neighbourhood) (k : Nat) (e : Int) : Bool :=
  let value := k * tenPow e.toNat * r.unitDen
  let scale := tenPow (-e).toNat * r.unitNum
  let low := (r.centre - r.below) * scale
  let high := (r.centre + 2) * scale
  if r.closed then low ≤ value && value ≤ high else low < value && value < high

/-- The distance of `k * 10 ^ e` from the double, in a unit that depends on `e` alone. -/
def distance (r : Neighbourhood) (k : Nat) (e : Int) : Nat :=
  let value := k * tenPow e.toNat * r.unitDen
  let centre := r.centre * (tenPow (-e).toNat * r.unitNum)
  (value - centre) + (centre - value)

/-- The largest `k` with `k * 10 ^ e` at most the double. -/
def floorOn (r : Neighbourhood) (e : Int) : Nat :=
  r.centre * (tenPow (-e).toNat * r.unitNum) / (tenPow e.toNat * r.unitDen)

/-- The neighbour on the grid of step `10 ^ e` that rounds to the double; of two the nearer, and of
two equally near the even one. -/
def onGrid? (r : Neighbourhood) (e : Int) : Option Nat :=
  let k := r.floorOn e
  match r.holds k e, r.holds (k + 1) e with
  | true, true =>
    let below := r.distance k e
    let above := r.distance (k + 1) e
    if below < above || (below == above && k % 2 == 0) then some k else some (k + 1)
  | true, false => some k
  | false, true => some (k + 1)
  | false, false => none

end Neighbourhood

/-- How many decimal digits `n` has; zero has one. -/
def digitCount (n : Nat) : Nat :=
  (Nat.toDigits 10 n).length

/-- The exponent of the leading digit of `num / den`, for positive numbers. -/
def leadingExponent (num den : Nat) : Int :=
  let guess := Int.ofNat (digitCount num) - Int.ofNat (digitCount den)
  if num * tenPow (-guess).toNat < den * tenPow guess.toNat then guess - 1 else guess

/-- **A decimal**: `digits` with the point after the first one, times `10 ^ exponent`. -/
structure Scientific where
  digits : List Char
  exponent : Int
deriving Repr, DecidableEq

/-- The decimal `k * 10 ^ e` without its trailing zeros. -/
def Scientific.ofGrid (k : Nat) (e : Int) : Scientific :=
  let digits := Nat.toDigits 10 k
  let trimmed := (digits.reverse.dropWhile (· == '0')).reverse
  { digits := if trimmed.isEmpty then ['0'] else trimmed
    exponent := e + Int.ofNat digits.length - 1 }

/-- The shortest decimal from `count` digits on, with `tries` grids left to try. -/
def shortestFrom (r : Neighbourhood) (leading : Int) (count : Nat) : (tries : Nat) → Scientific
  | 0 => .ofGrid (r.floorOn (leading - 16)) (leading - 16)
  | tries + 1 =>
    let e := leading - Int.ofNat count + 1
    match r.onGrid? e with
    | some k => .ofGrid k e
    | none => shortestFrom r leading (count + 1) tries

/-- **The shortest decimal that reads back as the magnitude of a finite double.** -/
def shortest (b : Binary64) : Scientific :=
  if b.mantissa == 0 then { digits := ['0'], exponent := 0 }
  else
    let (num, den) := b.fraction
    shortestFrom (.ofBinary64 b) (leadingExponent num den) 1 17

end SuiteAudit.Decimal
