import SuiteAudit.Vocabulary

/-!
# Weights and grades

How much each category counts in a score of 0 to 100, by type of test; what a grade means; and what
is recommended where a category is weak.
-/

namespace SuiteAudit

/-- Weights of some categories; others may be left out. -/
abbrev WeightEntries := List (Category × Int)

/-- **The weights of the categories.** -/
structure WeightRow where
  assertionQuality : Int
  errorCoverage : Int
  boundaryConditions : Int
  testIsolation : Int
  inputVariety : Int
  aiSmells : Int
deriving Repr, DecidableEq, Inhabited

namespace WeightRow

/-- The weight of a category. -/
def get (w : WeightRow) : Category → Int
  | .assertionQuality => w.assertionQuality
  | .errorCoverage => w.errorCoverage
  | .boundaryConditions => w.boundaryConditions
  | .testIsolation => w.testIsolation
  | .inputVariety => w.inputVariety
  | .aiSmells => w.aiSmells

/-- The row whose weights a function gives. -/
def ofFn (f : Category → Int) : WeightRow where
  assertionQuality := f .assertionQuality
  errorCoverage := f .errorCoverage
  boundaryConditions := f .boundaryConditions
  testIsolation := f .testIsolation
  inputVariety := f .inputVariety
  aiSmells := f .aiSmells

/-- The row of some weights; a category that is left out weighs nothing. -/
def ofEntries (entries : WeightEntries) : WeightRow :=
  ofFn fun c => (entries.lookup c).getD 0

/-- The weights by category, in the order of the breakdown. -/
def entries (w : WeightRow) : WeightEntries :=
  Category.all.map fun c => (c, w.get c)

/-- The weights in the order of the breakdown. -/
def toList (w : WeightRow) : List Int :=
  Category.all.map w.get

/-- The sum of the weights. -/
def total (w : WeightRow) : Int :=
  w.assertionQuality + w.errorCoverage + w.boundaryConditions + w.testIsolation + w.inputVariety +
    w.aiSmells

@[simp] theorem get_ofFn (f : Category → Int) (c : Category) : (ofFn f).get c = f c := by
  cases c <;> rfl

/-- A row can be read back off its entries. -/
theorem ofEntries_entries (w : WeightRow) : ofEntries w.entries = w := rfl

end WeightRow

/-- **The built-in weights**; each row sums to a hundred. End-to-end tests lean on assertions and
isolation, unit tests on boundaries and error paths. -/
def defaultWeights : TestType → WeightRow
  | .unit => ⟨20, 15, 20, 15, 15, 15⟩
  | .e2e => ⟨30, 15, 5, 25, 20, 5⟩
  | .component => ⟨25, 15, 15, 20, 20, 5⟩
  | .integration => ⟨22, 18, 15, 20, 20, 5⟩

/-- Weights of one's own for some types of test. -/
abbrev WeightTable := List (TestType × WeightRow)

/-- **The weights in force** for a type of test. -/
def weightsFor (testType : TestType) (overrides : WeightTable := []) : WeightRow :=
  ((overrides.find? (·.1 == testType)).map (·.2)).getD (defaultWeights testType)

/-- The weights in force where the rows of one's own may leave categories out. -/
def entriesFor (testType : TestType) (overrides : List (TestType × WeightEntries)) :
    WeightEntries :=
  (overrides.lookup testType).getD (defaultWeights testType).entries

/-- Every built-in row sums to a hundred. -/
theorem total_defaultWeights (t : TestType) : (defaultWeights t).total = 100 := by
  cases t <;> decide

/-! ### Raw scores -/

/-- The greatest raw score of a category. -/
def maxRaw : Nat := 25

/-- Categories below this raw score get a recommendation. -/
def recommendationThreshold : Int := 15

/-- A file whose tests assert nothing never scores above this. -/
def zeroAssertionCeiling : Int := 30

/-! ### Grades -/

/-- **The letter of a score.** -/
def gradeFor (value : Int) : Text :=
  if 90 ≤ value then "A"
  else if 80 ≤ value then "B"
  else if 70 ≤ value then "C"
  else if 60 ≤ value then "D"
  else "F"

/-- What a grade says of a test file; nothing for other letters. -/
def gradeDescription (grade : Text) : Text :=
  match grade with
  | "A" => "Excellent: specific assertions, error paths and edge cases are covered"
  | "B" => "Good: solid tests with a few gaps worth closing"
  | "C" => "Fair: tests run but miss important behaviour"
  | "D" => "Poor: weak assertions or missing coverage undermine these tests"
  | "F" => "Failing: these tests give little confidence in the code under test"
  | _ => ""

/-- What to do about a weak category. -/
def recommendation : Category → Text
  | .assertionQuality =>
    "Replace existence checks (toBeDefined/toBeTruthy) with assertions on exact values"
  | .errorCoverage =>
    "Add tests that trigger each error condition and assert on the thrown error"
  | .boundaryConditions =>
    "Exercise boundary values: the limit itself, one below and one above"
  | .testIsolation =>
    "Reset shared state in beforeEach so tests cannot depend on run order"
  | .inputVariety =>
    "Vary inputs: include zero, negatives, empty strings and null where they apply"
  | .aiSmells =>
    "Remove generated-looking boilerplate; assert on behaviour the test name promises"

end SuiteAudit
