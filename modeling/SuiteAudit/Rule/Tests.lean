import SuiteAudit.Rule.Assertions

/-!
# Rules on tests

The shape of single tests: bodies that are empty, dead or too big, tests that assert nothing or the
same as another one, and tests whose assertions do not fit what they are about.
-/

namespace SuiteAudit.Rules

open Text Text.Pattern

/-- The findings of the active tests that pass a check, at the tests themselves. -/
def testFindings (ctx : RuleContext) (check : TestCase → Bool) (message : TestCase → Text) :
    Except RuleFault (List Finding) :=
  .ok ((ctx.suite.activeTests.filter check).map fun t => { message := message t, span := t.span })

/-! ### Bodies -/

/-- Bodies without a statement. -/
def emptyTest : Rule where
  id := "empty-test"
  display := "Empty test"
  severity := .warning
  category := none
  guidance := "Implement the test or mark it with it.todo"
  detect := some fun ctx =>
    testFindings ctx (·.bodyEmpty) fun t => "Test '" ++ t.name ++ "' has an empty body"

/-- Tests that assert nothing. -/
def noAssertions : Rule where
  id := "no-assertions"
  display := "Test without assertions"
  severity := .error
  category := some .assertionQuality
  guidance := "Add an expect()/assert call that checks the behaviour the test name describes"
  detect := some fun ctx =>
    testFindings ctx (fun t => t.assertions.isEmpty && !t.bodyEmpty) fun t =>
      "Test '" ++ t.name ++ "' never asserts anything"
  contribute := some fun issues ctx =>
    match ctx.suite.activeTests.length with
    | 0 => .ok {}
    | total => .ok { points := .share issues.length total }

/-- Why a test is too complex. -/
def complexityReasons (t : TestCase) : List Text :=
  let reasons (limit count : Int) (things : Text) : List Text :=
    if limit < count then [toString count ++ " " ++ things] else []
  reasons 15 t.assertions.length "assertions" ++ reasons 50 t.span.lineCount "lines" ++
    reasons 10 t.branchCount "branches"

/-- Tests that are hard to follow. -/
def testComplexity : Rule where
  id := "test-complexity"
  display := "Overly complex test"
  severity := .warning
  category := some .assertionQuality
  guidance := "Split into smaller tests or extract setup into helpers"
  detect := some fun ctx =>
    testFindings ctx (fun t => !(complexityReasons t).isEmpty) fun t =>
      let reasons := Text.join ", " (complexityReasons t)
      "Test '" ++ t.name ++ "' is too complex: " ++ reasons
  contribute := some (cappedDelta 3 25)

/-- Statements that never run. -/
def unreachableTestCode : Rule where
  id := "unreachable-test-code"
  display := "Unreachable test code"
  severity := .warning
  category := some .assertionQuality
  guidance := "Delete the dead statements or move them before the return/throw"
  detect := some fun ctx => .ok <|
    ctx.suite.activeTests.flatMap fun t => t.unreachable.map fun span =>
      { message := "Unreachable code after return/throw in '" ++ t.name ++ "'", span }
  contribute := some (cappedDelta 3 15)

/-! ### Assertions of a test -/

/-- What an assertion checks, wherever it stands. -/
def assertionKey (a : Assertion) : Text × Bool × Text × List Text :=
  (a.matcher, a.negated, a.subject, a.args)

/-- **Whether two tests assert the same**, in whatever order. -/
def assertSame (a b : TestCase) : Bool :=
  (a.assertions.map assertionKey).isPerm (b.assertions.map assertionKey)

/-- The tests that assert the same as one before them; `seen` are those before. -/
def redundantFrom (seen : List TestCase) : List TestCase → List TestCase
  | [] => []
  | t :: rest =>
    if seen.any (assertSame t) then t :: redundantFrom seen rest
    else redundantFrom (t :: seen) rest

/-- Tests that assert the same as another one. -/
def redundantTest : Rule where
  id := "redundant-test"
  display := "Redundant test"
  severity := .info
  category := some .assertionQuality
  guidance := "Merge the duplicate or change its input so it covers a different case"
  detect := some fun ctx =>
    let tests := ctx.suite.activeTests.filter fun t => !t.assertions.isEmpty && !t.parameterized
    .ok ((redundantFrom [] tests).map fun t =>
      { message := "Test '" ++ t.name ++ "' may duplicate another test (same assertions)"
        span := t.span })
  contribute := some (cappedDelta 2 10)

/-- Matchers that pin down an exact value. -/
def exactMatchers : List Text :=
  ["toBe", "toEqual", "toStrictEqual", "toHaveLength", "equal", "equals", "eql", "assert.equal",
    "assert.strictEqual", "assert.deepEqual", "assert.deepStrictEqual"]

/-- Tests about a limit without an exact value. -/
def boundarySpecificity : Rule where
  id := "boundary-specificity"
  display := "Boundary without exact value"
  severity := .info
  category := some .assertionQuality
  guidance := "Assert both sides of the boundary exactly, e.g. expect(isAdult(17)).toBe(false)"
  detect := some fun ctx =>
    testFindings ctx
      (fun t => NameIntent.limitPattern.occursIn t.name && !t.assertions.isEmpty &&
        !t.assertions.any fun a => exactMatchers.contains a.matcher && !a.negated)
      fun t => "Test '" ++ t.name ++ "' names a boundary but never asserts an exact value"
  contribute := some hintDelta

/-- Matchers that look at a returned value only. -/
def returnMatchers : List Text :=
  ["toBe", "toEqual", "toStrictEqual", "toBeTruthy", "toBeDefined"]

/-- Tests about a change that look at a returned value only. -/
def stateVerification : Rule where
  id := "state-verification"
  display := "State change not verified"
  severity := .info
  category := some .assertionQuality
  guidance := "Also check the state or the mock the operation changes, not just its return value"
  detect := some fun ctx =>
    testFindings ctx
      (fun t =>
        match t.assertions with
        | [a] => NameIntent.changePattern.occursIn t.name && returnMatchers.contains a.matcher
        | _ => false)
      fun t => "Test '" ++ t.name ++ "' describes a change but only checks a return value"
  contribute := some hintDelta

/-! ### Errors -/

/-- Tests about an error that do not assert one. End-to-end tests see errors on the page. -/
def errorAssertionMissing : Rule where
  id := "error-assertion-missing"
  display := "Error test without error assertion"
  severity := .info
  category := some .errorCoverage
  guidance := "Use toThrow()/rejects or assert.throws so the test fails when no error occurs"
  detect := some fun ctx =>
    testFindings ctx
      (fun t => ctx.testType != .e2e && NameIntent.namesError t.name && !t.assertions.isEmpty &&
        !t.isErrorTest)
      fun t => "Test '" ++ t.name ++ "' is about an error but never asserts that one is raised"
  contribute := some (cappedDelta 2 10)

/-- What a test is told that asserts in a catch clause without a guard. -/
def catchFinding? (t : TestCase) : Option Finding :=
  if !t.hasTryCatch || t.hasAssertionGuard then none
  else (t.assertions.find? (·.inCatch)).map fun a =>
    { message :=
        "Test '" ++ t.name ++ "' passes silently when nothing throws: " ++
          "its assertions are only in a catch block"
      span := a.span }

/-- Errors that are asserted in a catch clause only. -/
def asyncErrorMishandling : Rule where
  id := "async-error-mishandling"
  display := "Error asserted only inside catch"
  severity := .warning
  category := some .errorCoverage
  guidance := "Use expect(...).rejects/toThrow, or call expect.assertions(n) before the try block"
  detect := some fun ctx => .ok (ctx.suite.activeTests.filterMap catchFinding?)
  contribute := some (cappedDelta 3 9)

end SuiteAudit.Rules
