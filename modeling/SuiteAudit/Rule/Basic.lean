import SuiteAudit.Suite.Basic
import SuiteAudit.SourceFacts
import SuiteAudit.Issue
import SuiteAudit.Policy.SmellLimits
import SuiteAudit.Score.Number

/-!
# Rules

A rule is data: its id, the severity and category of its findings, a line of advice, a detector, and
what its findings do to the category. Detectors report findings, and the rule stamps them with its
own id, category and advice, so no detector can speak for another rule or move a finding between the
two channels of the score.

A detector or contribution that cannot answer gives a `RuleFault`; the rest of the audit goes on
without it.
-/

namespace SuiteAudit

/-! ### What rules see and say -/

/-- **Everything that a rule may look at.** -/
structure RuleContext where
  suite : Suite
  facts : SourceFacts := .unavailable
  testType : TestType := .unit
  smells : SmellLimits := {}
deriving Inhabited

/-- **What a detector reports.** Without a severity of its own a finding has its rule's. -/
structure Finding where
  message : Text
  span : Span
  severity : Option Severity := none
  fix : Option Fix := none
deriving Repr, DecidableEq, Inhabited

/-- **Why a rule gave no answer.** -/
inductive RuleFault where
  /-- A mock names a test that the suite does not have. -/
  | noSuchTest (index : Int)
  /-- There is no expected value to name. -/
  | noExpectedValue
  /-- The rule reports a failure of its own. -/
  | refused
deriving Repr, DecidableEq, Inhabited

/-! ### Effect on a score -/

/-- **Points that findings take from a raw score**: a whole number of them, the share
`min 1 (part / outOf)` of all twenty-five, or whatever number a rule computed. -/
inductive Points where
  | whole (n : Int)
  | share (part outOf : Nat)
  | computed (x : Float)
deriving Repr, Inhabited

/-- The number of points. -/
def Points.value {α : Type} [ScoreNumber α] : Points → α
  | whole n => ScoreNumber.ofInt n
  | share part outOf =>
    ScoreNumber.ofInt (-25) *
      ScoreNumber.lesser (ScoreNumber.ofInt 1) (ScoreNumber.ratio part outOf)
  | computed x => ScoreNumber.ofDouble x

/-- The points as a whole number, if they are given as one. -/
def Points.whole? : Points → Option Int
  | whole n => some n
  | _ => none

/-- Whether the points leave a score as it is. -/
def Points.isZero : Points → Bool
  | whole n => n == 0
  | share part outOf => part == 0 || outOf == 0
  | computed x => x == 0

/-- **What a rule does to its category**: points added to the raw score, and how many of the facts
that it watches are covered. -/
structure Delta where
  points : Points := .whole 0
  covered : Int := 0
  total : Int := 0
deriving Repr, Inhabited

/-- The points of `count` findings at `each`, at most `cap`, taken away. -/
def cappedPoints (count : Nat) (each cap : Int) : Points :=
  .whole (-min (Int.ofNat count * each) cap)

/-- The effect of findings that cost `each`, at most `cap`. -/
def cappedDelta (each cap : Int) (issues : List Issue) (_ : RuleContext) : Except RuleFault Delta :=
  .ok { points := cappedPoints issues.length each cap }

/-! ### Rules -/

/-- Finds what a rule looks for. -/
abbrev Detector := RuleContext → Except RuleFault (List Finding)

/-- Says what the issues of a rule do to its category. -/
abbrev Contribution := List Issue → RuleContext → Except RuleFault Delta

/-- **A rule.** Without a category its issues cost penalty points. A rule that is not implemented
neither runs nor counts. -/
structure Rule where
  id : Text
  display : Text
  severity : Severity
  category : Option Category
  guidance : Text
  requiresSource : Bool := false
  implemented : Bool := true
  detect : Option Detector := none
  contribute : Option Contribution := none
deriving Inhabited

namespace Rule

/-- Whether the issues of the rule cost penalty points only. -/
def isPenaltyOnly (r : Rule) : Bool :=
  r.category.isNone

/-- Whether the rule can run. -/
def isActive (r : Rule) : Bool :=
  r.implemented && r.detect.isSome

/-- **The issue that a finding of the rule is.** -/
def issue (r : Rule) (f : Finding) : Issue where
  rule := r.id
  severity := f.severity.getD r.severity
  message := f.message
  span := f.span
  category := r.category
  suggestion := r.guidance
  fix := f.fix

/-- The issues that the rule finds; none if it has no detector. -/
def run (r : Rule) (ctx : RuleContext) : Except RuleFault (List Issue) :=
  match r.detect with
  | none => .ok []
  | some detect => (detect ctx).map (List.map r.issue)

end Rule

/-! ### Running rules -/

/-- **What a run of rules gave**: the issues, and the ids of the rules that gave no answer. -/
structure RuleReport where
  issues : List Issue := []
  failed : List Text := []
deriving Repr, Inhabited

/-- The report with the outcome of one more rule. -/
def RuleReport.add (ctx : RuleContext) (report : RuleReport) (r : Rule) : RuleReport :=
  match r.run ctx with
  | .ok issues => { report with issues := report.issues ++ issues }
  | .error _ => { report with failed := report.failed ++ [r.id] }

/-- **Runs the rules in order.** One that gives no answer contributes nothing and is named. -/
def runRules (rules : List Rule) (ctx : RuleContext) : RuleReport :=
  rules.foldl (RuleReport.add ctx) {}

/-- **The rules in force**: those that can run and are not switched off, in the order of their
ids. -/
def activeRules (settings : List (Text × RuleSetting)) (pool : List Rule) : List Rule :=
  (pool.filter fun r => r.isActive && settings.lookup r.id != some .off).mergeSort
    fun a b => Text.le a.id b.id

/-- **Issues after the settings of their rules**: those of a rule that is off are dropped, those of
a rule with a severity get it, all others stay. -/
def applySettings (settings : List (Text × RuleSetting)) (issues : List Issue) : List Issue :=
  issues.filterMap fun i =>
    match settings.lookup i.rule with
    | none => some i
    | some .off => none
    | some (.on severity) => some { i with severity }

end SuiteAudit
