import SuiteAudit.Suite.OfTree
import SuiteAudit.SourceFacts.OfTree
import SuiteAudit.Config.Basic
import SuiteAudit.Directive
import SuiteAudit.Rule.Registry
import SuiteAudit.Score.Ranking

/-!
# The audit of a test file

A test file is read, classified, and checked by the rules in force; what the settings and directives
leave of the issues gives the raw scores, and those the score. Only a test file that cannot be read
at all is refused: a source that cannot be read leaves its categories unmeasured, and a rule that
gives no answer is named in the breakdown. A number beyond those to compute with ends the audit.
-/

namespace SuiteAudit

/-! ### Input and result -/

/-- **What is to be audited**: a test file, and the source that it exercises if there is one. -/
structure Job where
  path : Text
  test : Content
  source : Option Content := none
  sourcePath : Text := ""

/-- **The result of an audit.** -/
structure Analysis (α : Type) where
  path : Text
  framework : Framework
  testType : TestType
  tests : List TestCase
  issues : List Issue
  breakdown : Breakdown α
  ranking : Option (List TestScore)
deriving Repr

namespace Analysis

variable {α : Type}

/-- The score of the file. -/
def score (a : Analysis α) : Score :=
  a.breakdown.score

/-- Whether the source could be read. -/
def sourceAvailable (a : Analysis α) : Bool :=
  a.breakdown.sourceAvailable

end Analysis

/-- **What ends an audit**: a number in the test file that has no value, a fault of the score, or a
path without bytes where results are kept by path. -/
inductive AuditFault where
  | number (cause : Syntax.NumberTooLarge)
  | score (cause : ScoreFault)
  | path (cause : NotEncodable)
deriving Repr, DecidableEq

/-- What is said of an audit that was ended. -/
def AuditFault.message : AuditFault → Text
  | number cause => cause.message
  | score cause => cause.message
  | path cause => cause.message

/-- **Why there is no analysis**: the test file is refused, or the audit was ended. -/
inductive AuditError where
  | refused (failure : Suite.ParseFailure)
  | ended (cause : AuditFault)

/-- The error of an audit whose test file gave no suite. -/
def AuditError.ofRead : Suite.ReadError → AuditError
  | .refused failure => refused failure
  | .tooLarge number => ended (.number number)

/-! ### Steps -/

/-- Beginnings of import sources that lie in the project itself. -/
def localSources : List Text :=
  [".", "/", "@/", "~/", "src/"]

/-- The names that a suite imports from its own project. -/
def importedNames (s : Suite) : List Text :=
  (s.imports.filter fun i => Text.startsWithAny i.source localSources).flatMap (·.names)

/-- **The facts that the source gives**; none are available if it is missing, left out, or cannot be
read. -/
def factsFor (parse : Syntax.Parser) (config : Config) (job : Job) (s : Suite) : SourceFacts :=
  if config.skipSourceAnalysis then .unavailable
  else
    match SourceFacts.read parse job.source (importedNames s) job.sourcePath with
    | .ok facts => facts
    | .error _ => .unavailable

/-- **The issues that count**: after the settings of the rules and the directives of the file, in
the order of a report. -/
def countedIssues (config : Config) (s : Suite) (found : List Issue) : List Issue :=
  let silence := Silence.ofLines registry.contains s.lines
  Issue.sorted (silence.filter (applySettings config.rules found))

/-- What the rules in force see. -/
def contextFor (config : Config) (s : Suite) (facts : SourceFacts) : RuleContext where
  suite := s
  facts := facts
  testType := classify s.path s.imports s.framework
  smells := config.smells

/-- **Scores the issues that count**, from the raw scores that they give. -/
def analysisOf (α : Type) [ScoreNumber α] (config : Config) (ctx : RuleContext)
    (issues : List Issue) (scored : RawReport) : Analysis α :=
  let s := ctx.suite
  let row := weightsFor ctx.testType config.weights
  let breakdown : Breakdown α :=
    { breakdownOf scored.raws row issues config.penalties (s.activeAssertionCount == 0) with
      sourceAvailable := ctx.facts.available
      recovered := s.recovered
      sourceRecovered := ctx.facts.recovered
      failedRules := scored.failed.eraseDups.mergeSort Text.le }
  { path := s.path
    framework := s.framework
    testType := ctx.testType
    tests := s.tests
    issues
    breakdown
    ranking :=
      if config.perTest then
        some (rankTests α s.tests issues breakdown.score.value row config.penalties)
      else none }

/-- The fault of an analysis: that of its raw scores, of its breakdown, or of its ranking. -/
def analysisFault? (α : Type) [ScoreNumber α] (config : Config) (ctx : RuleContext)
    (issues : List Issue) (scored : RawReport) : Option ScoreFault :=
  let weights := (weightsFor ctx.testType config.weights).entries
  scored.fault <|> breakdownFault? α scored.raws weights <|>
    if config.perTest then rankFault? α ctx.suite.tests issues weights config.penalties else none

/-- **Audits a suite** against the facts of its source. -/
def audit (α : Type) [ScoreNumber α] (config : Config) (pool : List Rule) (s : Suite)
    (facts : SourceFacts) : Except ScoreFault (Analysis α) :=
  let ctx := contextFor config s facts
  let rules := activeRules config.rules pool
  let report := runRules rules ctx
  let issues := countedIssues config s report.issues
  let scored := categoryRaws α rules issues ctx report.failed
  ScoreFault.guard (analysisFault? α config ctx issues scored)
    (analysisOf α config ctx issues scored)

/-- **Audits a test file.** -/
def analyze (α : Type) [ScoreNumber α] (parse : Syntax.Parser) (config : Config) (job : Job)
    (pool : List Rule := allRules) : Except AuditError (Analysis α) :=
  match Suite.read parse job.path job.test config.framework with
  | .error e => .error (.ofRead e)
  | .ok s =>
    (audit α config pool s (factsFor parse config job s)).mapError fun e => .ended (.score e)

end SuiteAudit
