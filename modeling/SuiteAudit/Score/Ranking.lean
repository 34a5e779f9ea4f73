import SuiteAudit.Score.Total

/-!
# Scores of single tests

Every test is scored by the issues that lie in it, and the tests are ranked, the weakest first. The
scores are scaled down where their mean, weighted by how much each test does, would outshine the
file.
-/

namespace SuiteAudit

/-! ### Attribution -/

/-- The owner of a line after one more test: the test takes the place of the owner so far if it
contains the line and does not start above that. -/
def ownerAfter (line : Int) (owner : Option (TestCase × Nat)) (t : TestCase × Nat) :
    Option (TestCase × Nat) :=
  if t.1.span.containsLine line && owner.all (fun u => u.1.span.line ≤ t.1.span.line) then some t
  else owner

/-- **The test that has the issues of a line**, with its index: the innermost one there. -/
def ownerAt? (tests : List TestCase) (line : Int) : Option (TestCase × Nat) :=
  tests.zipIdx.foldl (ownerAfter line) none

/-- Puts an issue behind those that its test already has; one outside every test is put nowhere. -/
def assignIssue (tests : List TestCase) (buckets : List (List Issue)) (i : Issue) :
    List (List Issue) :=
  match ownerAt? tests i.span.line with
  | none => buckets
  | some (_, index) => buckets.modify index (· ++ [i])

/-- **The issues of each test**: an issue belongs to the innermost test at its line, and an issue
outside every test to none. -/
def attributeIssues (tests : List TestCase) (issues : List Issue) : List (List Issue) :=
  issues.foldl (assignIssue tests) (tests.map fun _ => [])

/-! ### Values -/

/-- The raw points that an issue takes from its category. -/
def issuePoints : Severity → Int
  | .error => 8
  | .warning => 4
  | .info => 2

/-- The raw score of a test in a category. A test that runs and asserts nothing has none for its
assertions. -/
def testRaw (t : TestCase) (issues : List Issue) (c : Category) : Int :=
  if c == .assertionQuality && t.assertions.isEmpty && t.isActive then 0
  else
    let lost := wholeSum ((issues.filter (·.category == some c)).map (issuePoints ·.severity))
    max 0 (maxRaw - lost)

section

variable (α : Type) [ScoreNumber α]

open ScoreNumber

/-- **How much a test does**: one, one for each assertion, and a tenth for each line. -/
def complexity (t : TestCase) : α :=
  ofInt (1 + t.assertions.length) + ratio t.span.lineCount 10

/-- The sum of the weighted raw scores of a test. -/
def weightedRaw (t : TestCase) (issues : List Issue) (row : WeightRow) : α :=
  sum (Category.all.map fun c => ratio (testRaw t issues c * row.get c) maxRaw)

/-- **The value of a test** before scaling: its weighted raw scores less its penalties. -/
def testValue (t : TestCase) (issues : List Issue) (row : WeightRow) (policy : PenaltyPolicy) :
    Int :=
  max 0 (roundHalfUp (weightedRaw α t issues row) - (policy.pointsOf issues).total)

/-- The mean of values, weighted by how much each test does. -/
def weightedMean (tests : List TestCase) (values : List Int) : α :=
  let total : α := sum (tests.map (complexity α))
  sum ((values.zip tests).map fun (v, t) => ofInt v * complexity α t) / total

/-- **Values scaled to the score of the file**, if their mean lies above it. -/
def scaleValues (tests : List TestCase) (values : List Int) (fileScore : Nat) : List Int :=
  let mean := weightedMean α tests values
  if lt (ofInt fileScore) mean then
    let factor := ofInt fileScore / mean
    values.map fun v => floor (ofInt v * factor)
  else values

end

/-- **The score of a test**, with its issues. -/
structure TestScore where
  test : TestCase
  score : Score
  issues : List Issue
deriving Repr, Inhabited

/-- The order of a ranking: by score, then by first line. -/
def TestScore.le (a b : TestScore) : Bool :=
  if a.score.value != b.score.value then a.score.value < b.score.value
  else a.test.span.line ≤ b.test.span.line

/-- The values of the tests, before scaling. -/
def testValues (α : Type) [ScoreNumber α] (tests : List TestCase) (issues : List Issue)
    (row : WeightRow) (policy : PenaltyPolicy) : List Int :=
  (tests.zip (attributeIssues tests issues)).map fun (t, bucket) => testValue α t bucket row policy

/-- **The tests of a file, the weakest first.** -/
def rankTests (α : Type) [ScoreNumber α] (tests : List TestCase) (issues : List Issue)
    (fileScore : Nat) (row : WeightRow) (policy : PenaltyPolicy) : List TestScore :=
  let buckets := attributeIssues tests issues
  let scaled := scaleValues α tests (testValues α tests issues row policy) fileScore
  let scores := (tests.zip (scaled.zip buckets)).map fun (test, value, bucket) =>
    { test, score := .ofInt value, issues := bucket : TestScore }
  scores.mergeSort TestScore.le

/-! ### Faults -/

section

variable (α : Type) [ScoreNumber α]

open ScoreNumber

/-- The fault of the weighted raw score of a test in a category. -/
def weightedFault? (t : TestCase) (issues : List Issue) (weights : WeightEntries) (c : Category) :
    Option ScoreFault :=
  match weights.lookup c with
  | none => some (.noWeight c)
  | some weight => ratioFault? α (testRaw t issues c * weight) maxRaw

/-- The fault of the value of a test. -/
def valueFault? (t : TestCase) (issues : List Issue) (weights : WeightEntries) :
    Option ScoreFault :=
  Category.all.findSome? (weightedFault? α t issues weights) <|>
    roundFault? (weightedRaw α t issues (.ofEntries weights))

/-- The fault of the values of tests. -/
def valuesFault? (tests : List TestCase) (issues : List Issue) (weights : WeightEntries) :
    Option ScoreFault :=
  (tests.zip (attributeIssues tests issues)).findSome? fun (t, bucket) =>
    valueFault? α t bucket weights

/-- The fault of how much tests do. -/
def complexityFault? (tests : List TestCase) : Option ScoreFault :=
  tests.findSome? fun t => ratioFault? α t.span.lineCount 10

/-- **The fault of a ranking.** -/
def rankFault? (tests : List TestCase) (issues : List Issue) (weights : WeightEntries)
    (policy : PenaltyPolicy) : Option ScoreFault :=
  valuesFault? α tests issues weights <|> complexityFault? α tests <|>
    (testValues α tests issues (.ofEntries weights) policy).findSome? (wholeFault? α)

end

end SuiteAudit
