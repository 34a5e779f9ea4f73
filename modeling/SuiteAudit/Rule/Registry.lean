import SuiteAudit.Rule.Lines
import SuiteAudit.Rule.Markers
import SuiteAudit.Rule.Tests
import SuiteAudit.Rule.State
import SuiteAudit.Rule.Mocks
import SuiteAudit.Rule.Source

/-!
# The registry of rules

The one list of rules that everything else goes by. A registry holds each id once, and a rule
without a category never has a contribution.
-/

namespace SuiteAudit

/-- **Rules by id.** -/
structure Registry where
  rules : List Rule := []
deriving Inhabited

/-- **What can go wrong with a registry.** -/
inductive RegistryError where
  /-- The id is taken. -/
  | taken (id : Text)
  /-- A rule without a category cannot move a category. -/
  | penaltyOnly (id : Text)
  /-- There is no rule of this id. -/
  | unknown (id : Text)
deriving Repr, DecidableEq, Inhabited

/-- What is said of an error. -/
def RegistryError.message : RegistryError → Text
  | taken id => "Rule already registered: " ++ id
  | penaltyOnly id => "Penalty-only rule " ++ id ++ " cannot contribute to a category"
  | unknown id => id

namespace Registry

/-- The rule of an id. -/
def find? (g : Registry) (id : Text) : Option Rule :=
  g.rules.find? (·.id == id)

/-- Whether an id is registered. -/
def contains (g : Registry) (id : Text) : Bool :=
  g.rules.any (·.id == id)

/-- The rule of an id, or that there is none. -/
def get (g : Registry) (id : Text) : Except RegistryError Rule :=
  match g.find? id with
  | some r => .ok r
  | none => .error (.unknown id)

/-- The ids in ascending order. -/
def ids (g : Registry) : List Text :=
  (g.rules.map (·.id)).mergeSort Text.le

/-- **Adds a rule** at the end. -/
def register (g : Registry) (r : Rule) : Except RegistryError Registry :=
  if g.contains r.id then .error (.taken r.id)
  else if r.isPenaltyOnly && r.contribute.isSome then .error (.penaltyOnly r.id)
  else .ok { rules := g.rules ++ [r] }

/-- **Gives a rule its contribution**, in place of any it has. -/
def attach (g : Registry) (id : Text) (contribute : Contribution) :
    Except RegistryError Registry :=
  match g.find? id with
  | none => .error (.unknown id)
  | some r =>
    if r.isPenaltyOnly then .error (.penaltyOnly id)
    else
      .ok { rules := g.rules.map fun q =>
        if q.id == id then { q with contribute := some contribute } else q }

/-- **The issue of a finding**, stamped by the rule of an id. -/
def issue (g : Registry) (id : Text) (f : Finding) : Except RegistryError Issue :=
  match g.find? id with
  | some r => .ok (r.issue f)
  | none => .error (.unknown id)

end Registry

open Rules in
/-- **All rules.** -/
def allRules : List Rule :=
  [weakAssertion, noAssertions, snapshotOveruse, trivialAssertion, sideEffectNotVerified,
    redundantTest, mutationResistant, boundarySpecificity, stateVerification,
    behavioralCompleteness, testComplexity, unreachableTestCode, typeAssertionAbuse,
    missingErrorTest, returnPathCoverage, errorAssertionMissing, asyncErrorMishandling,
    incompleteMockVerification, missingBoundaryTest, singleValueBoundary, sharedState,
    orderDependentTests, missingCleanup, implementationCoupling, repeatedLiteralInput,
    limitedInputVariety, hardcodedValues, tautologicalAssertion, overMocking, shallowVariety,
    happyPathOnly, intentMismatch, boilerplatePadding, parrotAssertion, duplicateTestName,
    vagueTestName, debugCode, focusedTest, skippedTest, emptyTest, mockAbuse, missingAwait,
    flakyPattern, preferScreen, preferSemantic, preferUserEvent]

/-- **The registry of all rules.** -/
def registry : Registry where
  rules := allRules

end SuiteAudit
