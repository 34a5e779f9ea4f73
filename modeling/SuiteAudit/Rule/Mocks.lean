import SuiteAudit.Rule.Names
import SuiteAudit.Text.Path

/-!
# Rules on mocks

Mocks of the module under test, mocks that nobody takes down or looks at, and too many of them.
-/

namespace SuiteAudit.Rules

/-! ### What is mocked -/

/-- Whether a mock replaces the module of a stem. -/
def replacesModule (stem : Text) (m : Mock) : Bool :=
  m.kind == .module && m.target != "" && Text.fileStem m.target == stem

/-- Mocks of the module under test. -/
def mockAbuse : Rule where
  id := "mock-abuse"
  display := "Module under test is mocked"
  severity := .warning
  category := none
  guidance := "Mock the dependencies of the module under test, never the module itself"
  detect := some fun ctx =>
    let stem := Text.fileStem ctx.suite.path
    .ok <|
      if stem == "" then []
      else (ctx.suite.mocks.filter (replacesModule stem)).map fun m =>
        { message := m.api ++ "('" ++ m.target ++ "') replaces the module this file is testing"
          span := m.span }

/-- Files with more mocks than tests or assertions justify. -/
def overMocking : Rule where
  id := "ai-over-mocking"
  display := "Over-mocking"
  severity := .warning
  category := some .aiSmells
  guidance :=
    "Mock only the boundaries (network, clock, filesystem) and exercise real collaborators"
  detect := some fun ctx =>
    let tests := ctx.suite.activeTests.length
    let assertions := ctx.suite.activeAssertionCount
    let count := ctx.suite.mocks.length
    let fewTests := ctx.smells.overMockMinMocks ≤ Int.ofNat count &&
      Int.ofNat tests ≤ ctx.smells.overMockMaxTests
    let justified : Float := ctx.smells.mocksPerAssertion * Float.ofNat assertions
    let outnumbered := 0 < assertions && justified < Float.ofNat count
    match ctx.suite.mocks with
    | [] => .ok []
    | first :: _ =>
      if 0 < tests && (fewTests || outnumbered) then
        .ok [{ message :=
                 toString count ++ " mocks for " ++ toString tests ++ " test(s) and " ++
                   toString assertions ++ " assertion(s)"
               span := first.span }]
      else .ok []
  contribute := some smellDelta

/-! ### What becomes of a mock -/

/-- Whether one of the calls ends in one of the names. -/
def callsOneOf (calls names : List Text) : Bool :=
  calls.any fun call => names.contains (Text.afterLast '.' call)

/-- The finding of mocks that stay in place, at the first of them. -/
def leftInPlace (mocks : List Mock) (calls restores : List Text) (message : Nat → Text) :
    List Finding :=
  match mocks with
  | [] => []
  | first :: _ =>
    if callsOneOf calls restores then []
    else [{ message := message mocks.length, span := first.span }]

/-- Spies and timers that stay in place. Cypress takes its own down. -/
def missingCleanup : Rule where
  id := "missing-cleanup"
  display := "Missing mock cleanup"
  severity := .info
  category := some .testIsolation
  guidance := "Restore spies and real timers in afterEach (restoreAllMocks/useRealTimers)"
  detect := some fun ctx =>
    let s := ctx.suite
    let calls := s.hooks.flatMap (·.calls) ++ s.tests.flatMap (·.calls)
    .ok <|
      if s.framework = .cypress then []
      else
        leftInPlace (s.mocks.filter (·.kind == .spy)) calls
            ["restoreAllMocks", "mockRestore", "restore"]
            (fun n =>
              toString n ++
                " spy(ies) are never restored, so the real implementation stays replaced") ++
          leftInPlace (s.mocks.filter (·.kind == .timer)) calls
            ["useRealTimers", "restore", "uninstall"]
            (fun _ => "Fake timers are installed but real timers are never restored")
  contribute := some (cappedDelta 3 6)

/-- Makers of mocks whose calls a test is expected to check. -/
def verifiableApis : List Text :=
  ["jest.fn", "vi.fn", "jest.spyOn", "vi.spyOn"]

/-- The test that a mock belongs to, if its calls should be checked there. -/
def verifyingTest? (m : Mock) : Option Int :=
  if verifiableApis.contains m.api && m.scope == .test then m.testIndex else none

/-- The test at an index; an index below zero counts from the last test, which is -1. -/
def testAtIndex? (tests : List TestCase) (index : Int) : Option TestCase :=
  let place := if index < 0 then index + tests.length else index
  if place < 0 then none else tests[place.toNat]?

/-- What an unchecked mock is told. A mock of a test that does not exist gives no answer. -/
def unverifiedFindings (tests : List TestCase) (m : Mock) : Except RuleFault (List Finding) :=
  match verifyingTest? m with
  | none => .ok []
  | some index =>
    match testAtIndex? tests index with
    | none => .error (.noSuchTest index)
    | some t =>
      if !t.isActive || t.assertions.any (·.checksCalls) then .ok []
      else
        .ok [{ message :=
                 "Mock from " ++ m.api ++ "() in '" ++ t.name ++
                   "' is never checked with toHaveBeenCalled/toHaveBeenCalledWith"
               span := m.span }]

/-- Mocks whose calls nobody checks. -/
def incompleteMockVerification : Rule where
  id := "incomplete-mock-verification"
  display := "Mock never verified"
  severity := .warning
  category := some .errorCoverage
  guidance := "Verify the mock was called: expect(mock).toHaveBeenCalledWith(expectedArgs)"
  detect := some fun ctx =>
    (ctx.suite.mocks.mapM (unverifiedFindings ctx.suite.tests)).map List.flatten
  contribute := some (cappedDelta 3 15)

end SuiteAudit.Rules
