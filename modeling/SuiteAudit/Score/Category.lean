import SuiteAudit.Rule.Basic
import SuiteAudit.Score.Fault
import SuiteAudit.Suite.NameIntent

/-!
# Raw scores of the categories

Each category starts from a signal that the tests alone give, and the rules of the category move it.
Error coverage and boundary conditions also take the share of source facts that the tests cover.
Where the source could not be read they keep only a part of their test-only signal and say so, so
that nothing found is never confused with nothing looked at.
-/

namespace SuiteAudit

/-! ### Starting signals -/

/-- The share of edge classes and boundary names among the inputs of a suite. -/
def boundarySignal (s : Suite) : Int :=
  let kinds := (edgeKinds s.inputLiterals).length
  let named := s.activeTests.countP fun t => NameIntent.namesBoundary t.name
  min 25 (6 * kinds + min 5 (2 * named))

/-- **What the tests alone say of a category.** Error coverage has a floor and grows with the error
tests, boundary conditions grow with edge values and boundary names, the others start full. -/
def startScore (s : Suite) : Category → Int
  | .errorCoverage => min 25 (5 + 8 * s.errorTests.length)
  | .boundaryConditions => boundarySignal s
  | _ => 25

/-! ### Raw scores -/

/-- **The raw score of a category**, and how much of it was measured. -/
structure CategoryRaw where
  category : Category
  raw : Int
  evidence : Evidence := .measured
deriving Repr, DecidableEq, Inhabited

/-- What a rule did to its category. -/
structure RuleDelta where
  rule : Rule
  delta : Delta

/-- **Whether a rule scores in a category**: it is active, of this category, and has a
contribution. -/
def Rule.scoresIn (r : Rule) (c : Category) : Bool :=
  r.isActive && r.category == some c && r.contribute.isSome

/-- What a rule does to its category, given all issues. -/
def Rule.deltaOf (r : Rule) (issues : List Issue) (ctx : RuleContext) : Except RuleFault Delta :=
  match r.contribute with
  | some contribute => contribute (Issue.ofRule issues r.id) ctx
  | none => .ok {}

/-- What the rules did to a category, with the ids of those that gave no answer so far. -/
structure DeltaReport where
  deltas : List RuleDelta := []
  failed : List Text := []

/-- The report with one more rule of the category; a rule that has failed is not asked. -/
def DeltaReport.add (c : Category) (issues : List Issue) (ctx : RuleContext) (report : DeltaReport)
    (r : Rule) : DeltaReport :=
  if r.scoresIn c && !report.failed.contains r.id then
    match r.deltaOf issues ctx with
    | .ok delta => { report with deltas := report.deltas ++ [{ rule := r, delta }] }
    | .error _ => { report with failed := report.failed ++ [r.id] }
  else report

/-- What the rules do to a category, after the rules in `failed` gave no answer. -/
def deltasOf (c : Category) (rules : List Rule) (issues : List Issue) (ctx : RuleContext)
    (failed : List Text) : DeltaReport :=
  rules.foldl (DeltaReport.add c issues ctx) { failed }

section

variable {α : Type} [ScoreNumber α]

open ScoreNumber

/-- The whole points in front of all others, added up exactly. -/
def wholeFront (points : List Points) : Int :=
  wholeSum ((points.takeWhile (·.whole?.isSome)).filterMap Points.whole?)

/-- The points from the first that are not whole on. -/
def brokenRest (points : List Points) : List Points :=
  points.dropWhile (·.whole?.isSome)

/-- **The points of the rules, added up in order.** They stay exact as long as they are whole. -/
def pointSum (points : List Points) : α :=
  (brokenRest points).foldl (fun total p => total + p.value) (ofInt (wholeFront points))

variable (α) in
/-- The fault of adding up points. Whole points have to be among the numbers where they meet others;
alone they are only compared with the bounds of a raw score. -/
def pointFault? (points : List Points) : Option ScoreFault :=
  match brokenRest points with
  | [] => none
  | rest => (wholeFront points :: rest.filterMap Points.whole?).findSome? (wholeFault? α)

/-- What an unmeasured category keeps of its test-only signal. -/
def unknownValue (testOnly : α) : Int :=
  roundHalfUp (testOnly * unknownRatio)

/-- **What the rules did to a category, taken together**: the points of those that look at the tests
only, and the points and coverage of those that look at the source. -/
structure Effect where
  testPoints : List Points
  sourcePoints : List Points
  covered : Int
  total : Int

/-- The effect of some deltas. -/
def Effect.of (deltas : List RuleDelta) : Effect :=
  let (sourced, plain) := deltas.partition (·.rule.requiresSource)
  { testPoints := plain.map (·.delta.points)
    sourcePoints := sourced.map (·.delta.points)
    covered := wholeSum (sourced.map (·.delta.covered))
    total := wholeSum (sourced.map (·.delta.total)) }

/-- **The raw score of a category**, from what its rules did. Facts that were checked and found
clean never score below facts that could not be checked. -/
def rawFrom (c : Category) (ctx : RuleContext) (effect : Effect) : CategoryRaw :=
  let testPoints : α := pointSum effect.testPoints
  let sourcePoints : α := pointSum effect.sourcePoints
  let testOnly := clampRaw (ofInt (startScore ctx.suite c) + testPoints)
  if !c.needsSource then
    { category := c, raw := roundHalfUp (clampRaw (testOnly + sourcePoints)) }
  else
    let floor := unknownValue testOnly
    if !ctx.facts.available then { category := c, raw := floor, evidence := .unknown }
    else
      let measured :=
        if effect.total == 0 then clampRaw (testOnly + sourcePoints)
        else clampRaw (ratio (maxRaw * effect.covered) effect.total + testPoints + sourcePoints)
      { category := c, raw := max (roundHalfUp measured) floor }

variable (α) in
/-- The fault of the raw score of a category. -/
def rawFault? (c : Category) (ctx : RuleContext) (effect : Effect) : Option ScoreFault :=
  pointFault? α effect.testPoints <|> pointFault? α effect.sourcePoints <|>
    if c.needsSource && ctx.facts.available && effect.total != 0 then
      ratioFault? α (maxRaw * effect.covered) effect.total
    else none

end

/-- **The raw scores of all categories**, the ids of the rules that gave no answer, and the first
fault of a raw score; where there is one the raw scores mean nothing. -/
structure RawReport where
  raws : List CategoryRaw := []
  failed : List Text := []
  fault : Option ScoreFault := none
deriving Repr, Inhabited

/-- The report with one more category. A file without tests has no score in any. -/
def RawReport.add (α : Type) [ScoreNumber α] (rules : List Rule) (issues : List Issue)
    (ctx : RuleContext) (report : RawReport) (c : Category) : RawReport :=
  if ctx.suite.tests.isEmpty then
    { report with raws := report.raws ++ [{ category := c, raw := 0, evidence := .noTests }] }
  else
    let found := deltasOf c rules issues ctx report.failed
    let effect := Effect.of found.deltas
    { raws := report.raws ++ [rawFrom (α := α) c ctx effect]
      failed := found.failed
      fault := report.fault <|> rawFault? α c ctx effect }

/-- **The raw scores in the order of the breakdown.** `issues` are those that count, `failed` the
rules that have given no answer so far. -/
def categoryRaws (α : Type) [ScoreNumber α] (rules : List Rule) (issues : List Issue)
    (ctx : RuleContext) (failed : List Text := []) : RawReport :=
  Category.all.foldl (RawReport.add α rules issues ctx) { failed }

end SuiteAudit
