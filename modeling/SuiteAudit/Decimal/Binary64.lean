/-!
# Doubles as exact numbers

A finite double is `± mantissa * 2 ^ exponent` with integers `mantissa` and `exponent`, read off its
bits. Everything that has to be exact about doubles (their text, their whole part) is computed from
this form.
-/

namespace SuiteAudit.Decimal

/-- A power of two. -/
def twoPow (n : Nat) : Nat :=
  Nat.pow 2 n

/-- A power of ten. -/
def tenPow (n : Nat) : Nat :=
  Nat.pow 10 n

/-- **A finite double taken apart**: `mantissa * 2 ^ exponent`, negative if `negative` holds. -/
structure Binary64 where
  negative : Bool
  mantissa : Nat
  exponent : Int
deriving Repr, DecidableEq

namespace Binary64

/-- The parts of a finite double; infinities and not-a-number have none. -/
def ofFloat? (x : Float) : Option Binary64 :=
  let bits := x.toBits.toNat
  let fraction := bits % twoPow 52
  let biased := bits / twoPow 52 % twoPow 11
  let negative := twoPow 63 ≤ bits
  if biased == 2047 then none
  else if biased == 0 then some ⟨negative, fraction, -1074⟩
  else some ⟨negative, twoPow 52 + fraction, Int.ofNat biased - 1075⟩

/-- The magnitude as a fraction with a positive denominator. -/
def fraction (b : Binary64) : Nat × Nat :=
  match b.exponent with
  | .ofNat e => (b.mantissa * twoPow e, 1)
  | .negSucc e => (b.mantissa, twoPow (e + 1))

/-- Whether the number is whole. -/
def isWhole (b : Binary64) : Bool :=
  b.fraction.1 % b.fraction.2 == 0

/-- The number without its fractional part. -/
def whole (b : Binary64) : Int :=
  let magnitude := Int.ofNat (b.fraction.1 / b.fraction.2)
  if b.negative then -magnitude else magnitude

/-- The denominator of a fraction is positive, so the fraction is a number. -/
theorem fraction_snd_pos (b : Binary64) : 0 < b.fraction.2 := by
  unfold fraction
  cases b.exponent with
  | ofNat e => exact Nat.one_pos
  | negSucc e => exact Nat.two_pow_pos _

end Binary64

/-- Why a double has no whole part. -/
inductive NoWholePart where
  | infinite
  | notANumber
deriving Repr, DecidableEq

/-- What is said of a double without a whole part. -/
def NoWholePart.message : NoWholePart → String
  | infinite => "cannot convert float infinity to integer"
  | notANumber => "cannot convert float NaN to integer"

/-- **The double without its fractional part.** -/
def wholePart (x : Float) : Except NoWholePart Int :=
  match Binary64.ofFloat? x with
  | some b => .ok b.whole
  | none => .error (if x.isNaN then .notANumber else .infinite)

end SuiteAudit.Decimal
