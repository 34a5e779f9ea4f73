import SuiteAudit.Decimal.Binary64

/-!
# The double nearest to a quotient

The doubles around a positive number are the multiples of one power of two, its unit. A quotient of
whole numbers in that unit, rounded to a whole number, is the mantissa of the nearest double, and a
tie goes to the even mantissa. Below the least normal double the unit shrinks no further, and from
half a unit beyond the greatest double on the nearest one is infinite.
-/

namespace SuiteAudit.Decimal

/-- **The whole number nearest to `num / den`**, a half going to the even neighbour. -/
def roundHalfEven (num den : Nat) : Nat :=
  let floor := num / den
  let rest := 2 * (num % den)
  if rest < den || (rest == den && floor % 2 == 0) then floor else floor + 1

/-- The exponent of the leading binary digit of `num / den`, for positive numbers. -/
def binaryExponent (num den : Nat) : Int :=
  let guess := Int.ofNat num.log2 - Int.ofNat den.log2
  if num * twoPow (-guess).toNat < den * twoPow guess.toNat then guess - 1 else guess

/-- The exponent of the unit of the doubles around `num / den`, for positive numbers. -/
def unitExponent (num den : Nat) : Int :=
  max (binaryExponent num den - 52) (-1074)

/-- The nearest whole number of units in `num / den`. -/
def unitCount (num den : Nat) : Nat :=
  let e := unitExponent num den
  roundHalfEven (num * twoPow (-e).toNat) (den * twoPow e.toNat)

/-- **The bits of the double nearest to `num / den`.** The bits of positive doubles ascend one by
one with the doubles, so a mantissa that is rounded up into the next power of two needs no case. -/
def nearestBits (num den : Nat) : Nat :=
  if num == 0 then 0
  else (unitExponent num den + 1074).toNat * twoPow 52 + unitCount num den

/-- The bits of infinity. -/
def infiniteBits : Nat :=
  2047 * twoPow 52

/-- Whether the double nearest to `num / den` is finite. -/
def quotientFits (num den : Int) : Bool :=
  nearestBits num.natAbs den.natAbs < infiniteBits

/-- **The double nearest to `num / den`**, for a denominator other than zero. Where the signs differ
it is negative, the zero too. -/
def quotient (num den : Int) : Float :=
  let bits := min infiniteBits (nearestBits num.natAbs den.natAbs)
  let magnitude := Float.ofBits bits.toUInt64
  if decide (num < 0) != decide (den < 0) then -magnitude else magnitude

/-- **The double nearest to a whole number**; none if that one is infinite. -/
def ofInt? (n : Int) : Option Float :=
  if quotientFits n 1 then some (quotient n 1) else none

/-- What is said of a whole number beyond the doubles. -/
def beyondDoubles : String :=
  "int too large to convert to float"

/-- What is said of a quotient beyond the doubles. -/
def quotientBeyondDoubles : String :=
  "integer division result too large for a float"

/-- A fraction is rounded by at most a half. -/
theorem roundHalfEven_near {num den : Nat} (h : 0 < den) :
    2 * num ≤ 2 * (roundHalfEven num den * den) + den ∧
      2 * (roundHalfEven num den * den) ≤ 2 * num + den := by
  have hdiv := Nat.div_add_mod num den
  have hmod := Nat.mod_lt num h
  have hmul : den * (num / den) = num / den * den := Nat.mul_comm _ _
  unfold roundHalfEven
  simp only [Bool.or_eq_true, decide_eq_true_eq, Bool.and_eq_true, beq_iff_eq]
  split
  · omega
  · rw [Nat.add_mul]
    omega

end SuiteAudit.Decimal
