import SuiteAudit.Text.Quoted

/-!
# The words of the audit

The closed lists that inputs, rules and scores speak in: severities, kinds of test, frameworks,
categories, and how much of a category could be measured. Each has its names, and the names can be
read back.
-/

namespace SuiteAudit

/-- A word that names nothing in its list. -/
structure UnknownName where
  word : Text
  list : Text
deriving Repr, DecidableEq

/-- What is said of a word that names nothing. -/
def UnknownName.message (e : UnknownName) : Text :=
  e.word.quoted ++ " is not a valid " ++ e.list

/-- The member of a list with the given name. -/
def readName {α : Type} (list : Text) (members : List α) (name : α → Text)
    (word : Text) : Except UnknownName α :=
  match members.find? (name · == word) with
  | some member => .ok member
  | none => .error { word, list }

/-- Reading a name gives a member of that name. -/
theorem name_of_readName {α : Type} {list : Text} {members : List α} {name : α → Text}
    {word : Text} {member : α} (h : readName list members name word = .ok member) :
    name member = word := by
  unfold readName at h
  split at h
  · next found hf =>
    obtain rfl : found = member := by simpa using h
    simpa using List.find?_some hf
  · simp at h

/-! ### Severities -/

/-- **How much a finding matters.** -/
inductive Severity where
  | error
  | warning
  | info
deriving Repr, DecidableEq, Inhabited

namespace Severity

/-- The severities, the gravest first. -/
def all : List Severity := [error, warning, info]

/-- The name of a severity. -/
def name : Severity → Text
  | error => "error"
  | warning => "warning"
  | info => "info"

/-- The severity of a name. -/
def read : Text → Except UnknownName Severity :=
  readName "Severity" all name

end Severity

/-- **What a configuration says of a rule**: a severity for its findings, or that it is off. -/
inductive RuleSetting where
  | on (severity : Severity)
  | off
deriving Repr, DecidableEq

namespace RuleSetting

/-- The settings. -/
def all : List RuleSetting := Severity.all.map on ++ [off]

/-- The name of a setting. -/
def name : RuleSetting → Text
  | on severity => severity.name
  | off => "off"

/-- The setting of a name. -/
def read : Text → Except UnknownName RuleSetting :=
  readName "RuleSeverity" all name

end RuleSetting

/-! ### Tests and frameworks -/

/-- **How much of a system a test file exercises.** -/
inductive TestType where
  | unit
  | integration
  | component
  | e2e
deriving Repr, DecidableEq, Inhabited

namespace TestType

/-- The test types. -/
def all : List TestType := [unit, integration, component, e2e]

/-- The name of a test type. -/
def name : TestType → Text
  | unit => "unit"
  | integration => "integration"
  | component => "component"
  | e2e => "e2e"

/-- The test type of a name. -/
def read : Text → Except UnknownName TestType :=
  readName "TestType" all name

end TestType

/-- **The framework that runs a test file.** -/
inductive Framework where
  | jest
  | vitest
  | playwright
  | cypress
  | mocha
  | unknown
deriving Repr, DecidableEq, Inhabited

namespace Framework

/-- The frameworks. -/
def all : List Framework := [jest, vitest, playwright, cypress, mocha, unknown]

/-- The name of a framework. -/
def name : Framework → Text
  | jest => "jest"
  | vitest => "vitest"
  | playwright => "playwright"
  | cypress => "cypress"
  | mocha => "mocha"
  | unknown => "unknown"

/-- The framework of a name. -/
def read : Text → Except UnknownName Framework :=
  readName "Framework" all name

end Framework

/-! ### Categories -/

/-- **What a score is made of**, in the order of the breakdown. -/
inductive Category where
  | assertionQuality
  | errorCoverage
  | boundaryConditions
  | testIsolation
  | inputVariety
  | aiSmells
deriving Repr, DecidableEq, Inhabited

namespace Category

/-- **The categories in the order of the breakdown.** -/
def all : List Category :=
  [assertionQuality, errorCoverage, boundaryConditions, testIsolation, inputVariety, aiSmells]

/-- The title of a category. -/
def name : Category → Text
  | assertionQuality => "Assertion Quality"
  | errorCoverage => "Error Coverage"
  | boundaryConditions => "Boundary Conditions"
  | testIsolation => "Test Isolation"
  | inputVariety => "Input Variety"
  | aiSmells => "AI Smells"

/-- The key of a category in a configuration. -/
def key : Category → Text
  | assertionQuality => "assertion_quality"
  | errorCoverage => "error_coverage"
  | boundaryConditions => "boundary_conditions"
  | testIsolation => "test_isolation"
  | inputVariety => "input_variety"
  | aiSmells => "ai_smells"

/-- The category of a title. -/
def read : Text → Except UnknownName Category :=
  readName "Category" all name

/-- The place of a category in the breakdown. -/
def rank : Category → Nat
  | assertionQuality => 0
  | errorCoverage => 1
  | boundaryConditions => 2
  | testIsolation => 3
  | inputVariety => 4
  | aiSmells => 5

/-- Whether the category is measured against the code under test. -/
def needsSource : Category → Bool
  | errorCoverage | boundaryConditions => true
  | _ => false

/-- The list of all categories misses none. -/
theorem mem_all (c : Category) : c ∈ all := by
  cases c <;> simp [all]

end Category

/-- **How much of a category could be measured.** -/
inductive Evidence where
  | measured
  | unknown
  | noTests
deriving Repr, DecidableEq, Inhabited

namespace Evidence

/-- The degrees of evidence. -/
def all : List Evidence := [measured, unknown, noTests]

/-- The name of a degree of evidence. -/
def name : Evidence → Text
  | measured => "measured"
  | unknown => "unknown"
  | noTests => "no-tests"

/-- The degree of evidence of a name. -/
def read : Text → Except UnknownName Evidence :=
  readName "Evidence" all name

end Evidence

end SuiteAudit
