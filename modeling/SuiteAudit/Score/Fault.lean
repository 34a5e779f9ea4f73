import SuiteAudit.Score.Number
import SuiteAudit.Policy.Weights

/-!
# Why there is no score

Raw scores can leave a category out, and so can weights. Besides, the numbers that scores are
computed in may end: a whole number can lie beyond them, a quotient too, and a sum that has run
out of them has no whole part. Each of these is a fault. What is checked here is what the
computation is about to use, in the order in which it uses it, so the first fault found is the one
it would meet; where no check fails the computation goes through. The rationals never end, so with
them the first two faults are the only ones.
-/

namespace SuiteAudit

/-- **Why there is no score.** -/
inductive ScoreFault where
  /-- No raw score is given for these categories. -/
  | missingRaws (categories : List Category)
  /-- No weight is given for this category. -/
  | noWeight (category : Category)
  /-- A whole number is not among the numbers to score with. -/
  | wholeBeyond
  /-- A quotient is not among the numbers to score with. -/
  | ratioBeyond
  /-- A number that has to be rounded has no whole part. -/
  | noWholePart (cause : Decimal.NoWholePart)
deriving Repr, DecidableEq

/-- What is said of a fault. -/
def ScoreFault.message : ScoreFault → Text
  | missingRaws categories =>
    "Missing category raws: " ++ Text.join ", " (categories.map (·.name))
  | noWeight category => category.name
  | wholeBeyond => Decimal.beyondDoubles
  | ratioBeyond => Decimal.quotientBeyondDoubles
  | noWholePart cause => cause.message

/-- The value, unless there is a fault. -/
def ScoreFault.guard {α : Type} (fault : Option ScoreFault) (value : α) : Except ScoreFault α :=
  match fault with
  | some fault => .error fault
  | none => .ok value

/-! ### Checks -/

section

variable (α : Type) [ScoreNumber α]

/-- The fault of a whole number. -/
def wholeFault? (n : Int) : Option ScoreFault :=
  if ScoreNumber.holds α n then none else some .wholeBeyond

/-- The fault of a quotient of whole numbers. -/
def ratioFault? (num den : Int) : Option ScoreFault :=
  if ScoreNumber.holdsRatio α num den then none else some .ratioBeyond

/-- The fault of a weight that is looked up. -/
def missingFault? (weights : WeightEntries) (c : Category) : Option ScoreFault :=
  if (weights.lookup c).isNone then some (.noWeight c) else none

/-- The fault of a weight that is looked up and computed with. -/
def weightFault? (weights : WeightEntries) (c : Category) : Option ScoreFault :=
  match weights.lookup c with
  | none => some (.noWeight c)
  | some weight => wholeFault? α weight

end

/-- The fault of a number that is rounded to the nearest whole one. -/
def roundFault? {α : Type} [ScoreNumber α] (value : α) : Option ScoreFault :=
  (ScoreNumber.noWholePart? (value + ScoreNumber.half)).map .noWholePart

/-! ### No faults among the rationals -/

@[simp] theorem wholeFault?_rat (n : Int) : wholeFault? Rat n = none := rfl

@[simp] theorem ratioFault?_rat (num den : Int) : ratioFault? Rat num den = none := rfl

@[simp] theorem roundFault?_rat (value : Rat) : roundFault? value = none := rfl

end SuiteAudit
