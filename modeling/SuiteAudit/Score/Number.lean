import SuiteAudit.Decimal.Rounded

/-!
# Numbers to score with

Scores are computed in doubles, and reasoned about in rationals. Everything between the findings and
the final score is written once for any `ScoreNumber`; the two instances are the doubles, which run,
and the rationals, in which the laws of the score are exact. Not every whole number is near a double
and not every double has a whole part, so the class also says where its numbers end; the rationals
end nowhere.
-/

namespace SuiteAudit

/-- The sum of whole numbers. -/
def wholeSum : List Int → Int
  | [] => 0
  | n :: rest => n + wholeSum rest

/-- **The arithmetic that scoring needs.** -/
class ScoreNumber (α : Type) extends Add α, Sub α, Mul α, Div α where
  /-- A whole number. -/
  ofInt : Int → α
  /-- The value of a double. -/
  ofDouble : Float → α
  /-- The quotient of two whole numbers, rounded once. -/
  ratio : Int → Int → α
  /-- Strictly less. -/
  lt : α → α → Bool
  /-- Neither more nor less than nothing. -/
  isZero : α → Bool
  /-- The greatest whole number that is not above. -/
  floor : α → Int
  /-- The share of a test-only signal that a category keeps when its source could not be read. -/
  unknownRatio : α
  /-- Whether a whole number is among the numbers. -/
  holds : Int → Bool := fun _ => true
  /-- Whether the quotient of two whole numbers is among the numbers. -/
  holdsRatio : Int → Int → Bool := fun _ _ => true
  /-- Why a number has no whole part; most have one. -/
  noWholePart? : α → Option Decimal.NoWholePart := fun _ => none

/-- The value of a finite double as a fraction; infinities and not-a-number count as zero. -/
def ratOfDouble (x : Float) : Rat :=
  match Decimal.Binary64.ofFloat? x with
  | some b =>
    let (num, den) := b.fraction
    mkRat (if b.negative then -Int.ofNat num else Int.ofNat num) den
  | none => 0

/-- The nearest whole number to a double, a half going up; there is none at infinity. -/
def nearestWhole (x : Float) : Except Decimal.NoWholePart Int :=
  Decimal.wholePart (x + 0.5).floor

/-- The greatest whole number that is not above a double; zero where there is none. -/
def floorOfDouble (x : Float) : Int :=
  match Decimal.wholePart x.floor with
  | .ok n => n
  | .error _ => 0

/-- Why a double has no whole part; finite ones have one. -/
def doubleNoWholePart? (x : Float) : Option Decimal.NoWholePart :=
  match Decimal.wholePart x with
  | .ok _ => none
  | .error cause => some cause

instance : ScoreNumber Float where
  ofInt n := Decimal.quotient n 1
  ofDouble x := x
  ratio := Decimal.quotient
  lt a b := a < b
  isZero x := x == 0
  floor := floorOfDouble
  unknownRatio := 0.6
  holds n := Decimal.quotientFits n 1
  holdsRatio := Decimal.quotientFits
  noWholePart? := doubleNoWholePart?

instance : ScoreNumber Rat where
  ofInt n := n
  ofDouble := ratOfDouble
  ratio a b := (a : Rat) / (b : Rat)
  lt a b := decide (a < b)
  isZero a := decide (a = 0)
  floor := Rat.floor
  unknownRatio := 3 / 5

namespace ScoreNumber

variable {α : Type} [ScoreNumber α]

/-- The lesser of two numbers, the first if neither is. -/
def lesser (a b : α) : α :=
  if lt b a then b else a

/-- The greater of two numbers, the first if neither is. -/
def greater (a b : α) : α :=
  if lt a b then b else a

/-- **The number brought into the range from `low` to `high`.** -/
def clampTo (low high value : α) : α :=
  greater low (lesser high value)

/-- The number brought into the range of a raw score. -/
def clampRaw (value : α) : α :=
  clampTo (ofInt 0) (ofInt 25) value

/-- The number that `count` findings at `each` take away, which is at most `cap`. -/
def capped (count each cap : α) : α :=
  ofInt (-1) * lesser (count * each) cap

/-- One half. -/
def half : α :=
  ofInt 1 / ofInt 2

/-- **The nearest whole number**, a half going up. -/
def roundHalfUp (value : α) : Int :=
  floor (value + half)

/-- The sum from left to right. -/
def sum (values : List α) : α :=
  values.foldl (· + ·) (ofInt 0)

end ScoreNumber

end SuiteAudit
