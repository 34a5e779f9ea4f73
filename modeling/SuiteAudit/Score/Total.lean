import SuiteAudit.Score.Category
import SuiteAudit.Policy.Penalties

/-!
# The score of a file

Six raw scores, weighted by the type of test, give a number of at most a hundred; penalties come off
it. Every number on the way is kept in the breakdown, so a score can be traced to its inputs.

A category that could not be measured keeps its own weight for a raw score that is scaled down
already, and lends the rest of it to the measured ones in proportion to their weights.
-/

namespace SuiteAudit

/-! ### Scores -/

/-- **A score from 0 to 100.** -/
structure Score where
  value : Nat
  value_le : value ≤ 100
deriving Repr, DecidableEq

namespace Score

/-- The score nearest to a whole number. -/
def ofInt (n : Int) : Score :=
  { value := min 100 n.toNat, value_le := Nat.min_le_left 100 n.toNat }

instance : Inhabited Score := ⟨ofInt 0⟩

/-- The letter of a score. -/
def grade (s : Score) : Text :=
  gradeFor s.value

/-- The score and its letter. -/
def text (s : Score) : Text :=
  toString s.value ++ "/" ++ s.grade

end Score

/-! ### The breakdown -/

/-- **A category in the breakdown.** -/
structure CategoryRow (α : Type) where
  category : Category
  raw : Int
  weight : Int
  weighted : α
  evidence : Evidence
  maxRaw : Nat := maxRaw
  weightBonus : α
deriving Repr

/-- **How a score came about.** -/
structure Breakdown (α : Type) where
  rows : List (CategoryRow α)
  weightedTotal : Int
  penalties : BySeverity Int
  counts : BySeverity Nat
  zeroAssertionCap : Bool := false
  final : Int
  sourceAvailable : Bool := false
  recovered : Bool := false
  sourceRecovered : Bool := false
  failedRules : List Text := []
  redistributedWeight : α
deriving Repr

namespace Breakdown

variable {α : Type}

/-- The row of a category. -/
def row? (b : Breakdown α) (c : Category) : Option (CategoryRow α) :=
  b.rows.find? (·.category == c)

/-- The points that all penalties cost. -/
def penaltyTotal (b : Breakdown α) : Int :=
  b.penalties.total

/-- The score of the breakdown. -/
def score (b : Breakdown α) : Score :=
  .ofInt b.final

end Breakdown

/-! ### Weights -/

/-- The raw score of a category in a list; the last one counts. -/
def rawOf? (raws : List CategoryRaw) (c : Category) : Option CategoryRaw :=
  raws.reverse.find? (·.category == c)

/-- **Weights after lending**: what each category gains, and how much was lent. -/
structure Lending (α : Type) where
  bonuses : List (Category × α)
  moved : α
deriving Repr

section

variable {α : Type} [ScoreNumber α]

open ScoreNumber

/-- The measured categories with a positive weight, each once. -/
def measuredWeights (raws : List CategoryRaw) (row : WeightRow) : List (Category × Int) :=
  let measured := raws.filter fun r => r.evidence == .measured && 0 < row.get r.category
  (measured.map (·.category)).eraseDups.map fun c => (c, row.get c)

/-- The weight that the unmeasured categories lend. -/
def lentWeight (raws : List CategoryRaw) (row : WeightRow) : α :=
  sum ((raws.filter (·.evidence == .unknown)).map fun r =>
    ofInt (row.get r.category) * (ofInt 1 - unknownRatio))

/-- **Lends weight** of unmeasured categories to the measured ones in proportion to their own. -/
def lend (raws : List CategoryRaw) (row : WeightRow) : Lending α :=
  let moved : α := lentWeight raws row
  let measured := measuredWeights raws row
  let base := wholeSum (measured.map (·.2))
  if isZero moved || base == 0 then
    { bonuses := [], moved := ofInt 0 }
  else
    { bonuses := measured.map fun (c, weight) => (c, moved * ofInt weight / ofInt base), moved }

/-- What a category gains. -/
def Lending.bonus (l : Lending α) (c : Category) : α :=
  (l.bonuses.lookup c).getD (ofInt 0)

/-- **The row of a category**: its raw score within bounds, times its weight and what it gains. -/
def rowFor (row : WeightRow) (lending : Lending α) (r : CategoryRaw) : CategoryRow α :=
  let raw := max 0 (min 25 r.raw)
  let weight := row.get r.category
  let bonus := lending.bonus r.category
  { category := r.category, raw, weight, evidence := r.evidence, weightBonus := bonus
    weighted := ofInt raw * (ofInt weight + bonus) / ofInt 25 }

/-- The rows of the breakdown. -/
def rowsOf (raws : List CategoryRaw) (row : WeightRow) : List (CategoryRow α) :=
  let lending := lend raws row
  Category.all.map fun c =>
    rowFor row lending ((rawOf? raws c).getD { category := c, raw := 0, evidence := .noTests })

/-- The sum of the rows, as a whole number from 0 to 100. -/
def weightedTotalOf (rows : List (CategoryRow α)) : Int :=
  max 0 (min 100 (roundHalfUp (sum (rows.map (·.weighted)))))

/-- The final score: what is left after penalties, and no more than the ceiling if the tests assert
nothing. -/
def finalOf (weightedTotal penalty : Int) (zeroAssertions : Bool) : Int :=
  let left := max 0 (weightedTotal - penalty)
  if zeroAssertions then min left zeroAssertionCeiling else left

/-- **The breakdown of six raw scores.** -/
def breakdownOf (raws : List CategoryRaw) (row : WeightRow) (issues : List Issue)
    (policy : PenaltyPolicy) (zeroAssertions : Bool) : Breakdown α :=
  let rows : List (CategoryRow α) := rowsOf raws row
  let weightedTotal := weightedTotalOf rows
  let penalties := policy.pointsOf issues
  { rows, weightedTotal, penalties
    counts := penaltyCounts issues
    zeroAssertionCap := zeroAssertions
    final := finalOf weightedTotal penalties.total zeroAssertions
    redistributedWeight := (lend (α := α) raws row).moved }

/-! ### Faults -/

variable (α) in
/-- The fault of lending weight. The weights that share in what is lent are positive, so none of
them is beyond the numbers if their sum is not. -/
def lendFault? (raws : List CategoryRaw) (weights : WeightEntries) : Option ScoreFault :=
  let having (e : Evidence) := (raws.filter (·.evidence == e)).map (·.category)
  let row := WeightRow.ofEntries weights
  (having .unknown).findSome? (weightFault? α weights) <|>
    (having .measured).findSome? (missingFault? weights) <|>
    match (lend (α := α) raws row).bonuses with
    | [] => none
    | _ => wholeFault? α (wholeSum ((measuredWeights raws row).map (·.2)))

/-- The categories that a list of raw scores leaves out. -/
def missingCategories (raws : List CategoryRaw) : List Category :=
  Category.all.filter fun c => (rawOf? raws c).isNone

variable (α) in
/-- The fault of a breakdown. -/
def breakdownFault? (raws : List CategoryRaw) (weights : WeightEntries) : Option ScoreFault :=
  match missingCategories raws with
  | [] =>
    let rows : List (CategoryRow α) := rowsOf raws (.ofEntries weights)
    lendFault? α raws weights <|> Category.all.findSome? (weightFault? α weights) <|>
      roundFault? (sum (rows.map (·.weighted)))
  | categories => some (.missingRaws categories)

/-- **The breakdown of raw scores**, if they and the weights cover all categories and no number on
the way is beyond those to score with. -/
def aggregate (raws : List CategoryRaw) (weights : WeightEntries) (issues : List Issue)
    (policy : PenaltyPolicy) (zeroAssertions : Bool) : Except ScoreFault (Breakdown α) :=
  ScoreFault.guard (breakdownFault? α raws weights)
    (breakdownOf raws (.ofEntries weights) issues policy zeroAssertions)

end

/-! ### Recommendations -/

/-- **A line for each weak category that counts**, the weakest first. -/
def recommendations {α : Type} (b : Breakdown α) : List Text :=
  let weak := b.rows.filter fun r => r.raw < recommendationThreshold && 0 < r.weight
  let sorted := weak.mergeSort fun x y =>
    x.raw < y.raw || (x.raw == y.raw && x.category.rank ≤ y.category.rank)
  sorted.map fun r => r.category.name ++ ": " ++ recommendation r.category

end SuiteAudit
