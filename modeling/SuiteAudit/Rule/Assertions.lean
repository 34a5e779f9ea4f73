import SuiteAudit.Rule.Names

/-!
# Rules on assertions

What single assertions pin down: too little, nothing of the code under test, a recording, the value
itself, or the inside of a mock.
-/

namespace SuiteAudit.Rules

open Text Text.Pattern

/-! ### Text of literals and names -/

/-- A quoted text whose inside holds no character of `stops`. -/
def quotedPattern (quote : CodePoint) (stops : List CodePoint) : Pattern :=
  all [char quote, run fun c => !stops.contains c, char quote]

/-- The text of a number. -/
def numberPattern : Pattern :=
  let sign := opt (oneOf fun c => c == '-' || c == '+')
  all
    [sign, oneOf isDigit, run fun c => isDigit c || c == '_', opt (seq (char '.') digits),
      opt (all [word "e", sign, digits]), opt (word "n")]

/-- The text of a literal. -/
def literalPattern : Pattern :=
  all
    [start,
      first
        [numberPattern, quotedPattern '\'' ['\''], quotedPattern '"' ['"'],
          quotedPattern '\x60' ['\x60', '$'], words ["true", "false", "null", "undefined"]],
      stop]

/-- **Whether a text is that of a literal.** -/
def isLiteralText (text : Text) : Bool :=
  literalPattern.matchesStart (Text.strip text)

/-- The first character of a name. -/
def nameStart : Pattern :=
  oneOf fun c => isAsciiLetter c || c == '_' || c == '$'

/-- A name. -/
def namePattern : Pattern :=
  seq nameStart (run fun c => isWord c || c == '$')

/-- **Whether a text is a name**, or names joined by dots. -/
def isIdentifierText (text : Text) : Bool :=
  Pattern.matchesStart (all [start, namePattern, many (seq (char '.') namePattern), stop])
    (Text.strip text)

/-- **Whether an assertion is about a literal** and not about the code under test. -/
def hasLiteralSubject (a : Assertion) : Bool :=
  match a.style with
  | .cypress | .custom | .should => false
  | _ => a.subject != "" && isLiteralText a.subject

/-- The assertions of the active tests, each with its test. -/
def activeAssertions (s : Suite) : List (TestCase × Assertion) :=
  s.activeTests.flatMap fun t => t.assertions.map fun a => (t, a)

/-! ### Weak and trivial assertions -/

/-- What a weak assertion is told. -/
def weakFinding? (framework : Framework) (a : Assertion) : Option Finding :=
  if hasLiteralSubject a then none
  else if a.isSnapshot then
    some
      { message :=
          "Snapshot assertion '" ++ a.matcher ++ "' accepts whatever the code currently produces"
        span := a.span }
  else if isWeak a framework then
    let negation : Text := if a.negated then "not." else ""
    some
      { message :=
          "Weak assertion '" ++ negation ++ a.matcher ++ "' only checks existence or truthiness"
        span := a.span }
  else none

/-- Assertions that pin down little. -/
def weakAssertion : Rule where
  id := "weak-assertion"
  display := "Weak assertion"
  severity := .warning
  category := some .assertionQuality
  guidance := "Assert on the exact expected value instead of existence, truthiness or a snapshot"
  detect := some fun ctx => .ok <|
    (activeAssertions ctx.suite).filterMap fun (_, a) => weakFinding? ctx.suite.framework a
  contribute := some fun issues ctx =>
    match ctx.suite.activeAssertionCount with
    | 0 => .ok {}
    | total => .ok { points := .share issues.length total }

/-- Assertions on literals. -/
def trivialAssertion : Rule where
  id := "trivial-assertion"
  display := "Trivial assertion"
  severity := .warning
  category := some .assertionQuality
  guidance := "Assert on a value produced by the code under test, not on a literal"
  detect := some fun ctx => .ok <|
    ((activeAssertions ctx.suite).filter fun (_, a) => hasLiteralSubject a).map fun (_, a) =>
      { message :=
          "Assertion on the literal " ++ a.subject ++ " can never fail for the right reason"
        span := a.span }
  contribute := some (cappedDelta 3 12)

/-! ### Snapshots -/

/-- Files that lean on snapshots. -/
def snapshotOveruse : Rule where
  id := "snapshot-overuse"
  display := "Snapshot overuse"
  severity := .warning
  category := some .assertionQuality
  guidance := "Keep snapshots for large rendered output; assert specific values everywhere else"
  detect := some fun ctx =>
    let total := ctx.suite.assertions.length
    match ctx.suite.assertions.filter (·.isSnapshot) with
    | [] => .ok []
    | first :: rest =>
      let count := rest.length + 1
      if 2 * count ≤ total then .ok []
      else
        let ratio := Decimal.roundHalfEven (100 * count) total
        .ok [{ message :=
                 toString ratio ++ "% of assertions are snapshots (" ++ toString count ++ " of " ++
                   toString total ++ ")"
               span := first.span }]
  contribute := some fun issues _ =>
    .ok { points := .whole (if issues.isEmpty then 0 else -5) }

/-! ### Loose and circular assertions -/

/-- Comparisons that hold for almost any result, with the argument that makes them loose. -/
def looseBounds : List (Text × Text) :=
  [("toBeGreaterThan", "0"), ("toBeGreaterThanOrEqual", "0"), ("toBeLessThan", "1")]

/-- What a loose comparison is told. -/
def looseFinding? (t : TestCase) (a : Assertion) : Option Finding :=
  match looseBounds.lookup a.matcher with
  | none => none
  | some loose =>
    if !a.negated && a.args == [loose] then
      some
        { message :=
            "'" ++ a.matcher ++ "(" ++ loose ++ ")' in '" ++ t.name ++
              "' still passes if the value changes"
          span := a.span }
    else none

/-- The effect of hints. -/
def hintDelta : Contribution := cappedDelta 1 5

/-- Comparisons that survive a change of the value. -/
def mutationResistant : Rule where
  id := "mutation-resistant"
  display := "Mutation-resistant assertion"
  severity := .info
  category := some .assertionQuality
  guidance :=
    "Assert the exact value, e.g. expect(count).toBe(3), so off-by-one changes fail the test"
  detect := some fun ctx => .ok <|
    (activeAssertions ctx.suite).filterMap fun (t, a) => looseFinding? t a
  contribute := some hintDelta

/-- Matchers that compare for equality. -/
def equalityMatchers : List Text :=
  ["toBe", "toEqual", "toStrictEqual", "equal", "equals", "eq", "eql", "assert.equal",
    "assert.strictEqual", "assert.deepEqual", "assert.deepStrictEqual"]

/-- **Whether an assertion compares a name with itself.** -/
def isTautology (a : Assertion) : Bool :=
  equalityMatchers.contains a.matcher && a.subject != "" && a.args == [a.subject] &&
    isIdentifierText a.subject

/-- Comparisons of a value with itself. -/
def tautologicalAssertion : Rule where
  id := "ai-tautological-assertion"
  display := "Tautological assertion"
  severity := .warning
  category := some .aiSmells
  guidance := "Compare the result against an independently known expected value"
  detect := some fun ctx => .ok <|
    ((activeAssertions ctx.suite).filter fun (_, a) => isTautology a).map fun (_, a) =>
      { message := "'" ++ a.subject ++ "' is compared with itself", span := a.span }
  contribute := some smellDelta

/-! ### Assertions on mocks -/

/-- A subject that is the record of a mock. -/
def mockRecordPattern : Pattern :=
  all [char '.', group (texts ["calls", "instances"]), stop]

/-- Assertions on what a mock recorded. -/
def implementationCoupling : Rule where
  id := "implementation-coupling"
  display := "Assertion on mock internals"
  severity := .info
  category := some .testIsolation
  guidance := "Verify return values or side effects instead of the mock's recorded calls"
  detect := some fun ctx => .ok <|
    (activeAssertions ctx.suite).filterMap fun (t, a) =>
      (mockRecordPattern.search a.subject).map fun m =>
        let record := m.groups.headD ""
        { message :=
            "Asserting on mock." ++ record ++ " couples '" ++ t.name ++
              "' to how the code is implemented"
          span := a.span }
  contribute := some (cappedDelta 2 15)

/-! ### Promises -/

/-- Matchers of Playwright that wait, and so return promises. -/
def waitingMatchers : List Text :=
  ["toBeVisible", "toBeHidden", "toBeAttached", "toBeChecked", "toBeDisabled", "toBeEnabled",
    "toBeEditable", "toBeFocused", "toBeEmpty", "toHaveText", "toContainText", "toHaveValue",
    "toHaveAttribute", "toHaveClass", "toHaveCount", "toHaveURL", "toHaveTitle",
    "toHaveScreenshot", "toHaveCSS", "toHaveId"]

/-- **Whether an assertion is a promise that nobody waits for.** -/
def needsAwait (framework : Framework) (a : Assertion) : Bool :=
  !a.awaited &&
    (a.isAsyncChain ||
      (framework = .playwright && a.style = .expect && waitingMatchers.contains a.matcher))

/-- What a forgotten promise is told. In an async test the word that is missing can be put in. -/
def awaitFinding (t : TestCase) (a : Assertion) : Finding :=
  let at_ := Span.of a.span.line a.span.column a.span.line a.span.column
  { message := "'" ++ a.matcher ++ "' returns a promise that is never awaited"
    span := a.span
    fix := if t.isAsync then some { span := at_, replacement := "await " } else none }

/-- What a test is told about promises. -/
def awaitFindings (framework : Framework) (t : TestCase) : List Finding :=
  let forgotten := t.assertions.filter (needsAwait framework)
  forgotten.map (awaitFinding t) ++
    if t.isAsync && forgotten.isEmpty && t.awaitCount == 0 && !t.returnsPromise then
      [{ message := "Async test '" ++ t.name ++ "' never awaits anything", span := t.span
         severity := some .info }]
    else []

/-- Promises that nobody waits for. -/
def missingAwait : Rule where
  id := "missing-await"
  display := "Missing await"
  severity := .warning
  category := none
  guidance := "await (or return) promise-based expectations so their failures are reported"
  detect := some fun ctx =>
    .ok (ctx.suite.activeTests.flatMap (awaitFindings ctx.suite.framework))

end SuiteAudit.Rules
