import SuiteAudit.Rule.Inputs
import SuiteAudit.Rule.Assertions

/-!
# Rules on the code under test

What the source does and no test looks at: failures, ways out, limits, changes, and properties of
what is returned. These rules are silent where the source could not be read.
-/

namespace SuiteAudit.Rules

open Text Text.Pattern

/-! ### Failures -/

/-- **Whether an error test names the failure**: it calls the function, and the text of one of its
error assertions holds the type of the error or the start of its message. -/
def namesThrow (t : TestCase) (fact : ThrowSite) : Bool :=
  t.callsFunction fact.function && t.assertions.any fun a =>
    (a.isErrorAssertion || a.inCatch) &&
      let text := Text.join " " (a.subject :: a.args)
      (fact.errorType != "" && Text.contains text fact.errorType) ||
        (fact.message != "" && Text.contains text (Text.take 40 fact.message))

/-- The error test that names a failure, the first if there are several. -/
def typedMatch? (tests : List TestCase) (fact : ThrowSite) : Option Nat :=
  tests.findIdx? (namesThrow · fact)

/-- **Spends spare tests**, one for each failure that is still uncovered: the first that calls its
function, or else the first of all. Gives the indices that become covered. -/
def spendSpare (tests : List TestCase) : (open_ : List (ThrowSite × Nat)) → (spare : List Nat) →
    List Nat
  | [], _ => []
  | _, [] => []
  | (fact, index) :: rest, first :: others =>
    let spare := first :: others
    let pick := (spare.find? fun t =>
      tests[t]?.any fun test => test.callsFunction fact.function).getD first
    index :: spendSpare tests rest (spare.erase pick)

/-- **The failures that error tests cover**, as indices. Tests that name a failure come first; each
test left over then covers one more. -/
def coveredThrows (tests : List TestCase) (throws : List ThrowSite) : List Nat :=
  let named := throws.zipIdx.filter fun (fact, _) => (typedMatch? tests fact).isSome
  let used := throws.filterMap (typedMatch? tests)
  let open_ := throws.zipIdx.filter fun (fact, _) => (typedMatch? tests fact).isNone
  let spare := (List.range tests.length).filter (!used.contains ·)
  named.map (·.2) ++ spendSpare tests open_ spare

/-- What an uncovered failure is told. -/
def throwFinding (fact : ThrowSite) : Finding :=
  let what : Text := if fact.errorType == "" then "an error" else fact.errorType
  let when_ : Text :=
    if fact.condition == "" || fact.condition == "always" then "" else " when " ++ fact.condition
  { message :=
      "No test covers " ++ fact.function ++ "() throwing " ++ what ++ when_ ++ " (source line " ++
        toString fact.line ++ ")"
    span := .of 1 }

/-- The coverage of `total` facts, of which `issues` are uncovered. -/
def coverageDelta (total : Nat) (issues : List Issue) : Delta :=
  { covered := max 0 (Int.ofNat total - Int.ofNat issues.length), total }

/-- Failures that no test triggers. -/
def missingErrorTest : Rule where
  id := "missing-error-test"
  display := "Missing error test"
  severity := .warning
  category := some .errorCoverage
  guidance := "Add a test that triggers this condition and asserts on the thrown error"
  requiresSource := true
  detect := some fun ctx =>
    if !ctx.facts.available then .ok []
    else
      let covered := coveredThrows ctx.suite.errorTests ctx.facts.throws
      .ok ((ctx.facts.throws.zipIdx.filter fun (_, index) => !covered.contains index).map
        fun (fact, _) => throwFinding fact)
  contribute := some fun issues ctx =>
    .ok (coverageDelta (if ctx.facts.available then ctx.facts.throws.length else 0) issues)

/-! ### Ways out -/

/-- What a function is told with more ways out than tests. -/
def returnPathFinding? (ctx : RuleContext) (function : Text) : Option Finding :=
  let count := ctx.facts.returns.countP (·.function == function)
  match ctx.suite.activeTests.filter (·.callsFunction function) with
  | [] => none
  | first :: rest =>
    let callers := rest.length + 1
    if 3 ≤ count && callers < count then
      some
        { message :=
            function ++ "() has " ++ toString count ++ " return paths but only " ++
              toString callers ++ " test(s) call it"
          span := first.span }
    else none

/-- Functions with more ways out than tests. -/
def returnPathCoverage : Rule where
  id := "return-path-coverage"
  display := "Return paths under-tested"
  severity := .info
  category := some .errorCoverage
  guidance := "Add a test for each branch that returns a different result"
  requiresSource := true
  detect := some fun ctx =>
    if !ctx.facts.available then .ok []
    else
      let functions := (ctx.facts.returns.map (·.function)).eraseDups.mergeSort Text.le
      .ok (functions.filterMap (returnPathFinding? ctx))
  contribute := some (cappedDelta 2 6)

/-! ### Limits -/

/-- **Whether inputs exercise a limit**: it is among them, or a neighbour is. -/
def isExercised (limit : Float) (values : List Float) : Bool :=
  [limit, limit - 1, limit + 1].any fun x => values.any (x == ·)

/-- What an unexercised limit is told. -/
def boundaryFinding (c : BoundaryComparison) : Finding :=
  let below := Decimal.plainText (c.value - 1)
  let at_ := Decimal.plainText c.value
  let above := Decimal.plainText (c.value + 1)
  { message :=
      "No test exercises " ++ c.function ++ "() at its boundary '" ++ c.operator ++ " " ++
        c.operand ++ "' (try " ++ below ++ ", " ++ at_ ++ ", " ++ above ++ "; source line " ++
        toString c.line ++ ")"
    span := .of 1 }

/-- Limits that no input comes near. -/
def missingBoundaryTest : Rule where
  id := "missing-boundary-test"
  display := "Missing boundary test"
  severity := .warning
  category := some .boundaryConditions
  guidance := "Test the limit itself plus the values immediately below and above it"
  requiresSource := true
  detect := some fun ctx =>
    if !ctx.facts.available then .ok []
    else
      let values := (numericInputs ctx.suite).map (·.2)
      .ok ((ctx.facts.comparisons.filter fun c => !isExercised c.value values).map boundaryFinding)
  contribute := some fun issues ctx =>
    .ok (coverageDelta (if ctx.facts.available then ctx.facts.comparisons.length else 0) issues)

/-! ### Changes -/

/-- Whether a test looks at a changed target: it checks calls, or mentions the target. -/
def looksAt (t : TestCase) (target : Text) : Bool :=
  t.assertions.any fun a =>
    a.checksCalls ||
      (target != "" && (Text.contains a.subject target || a.args.any (Text.contains · target)))

/-- What a change is told that no test looks at, though some test calls the function. -/
def sideEffectFinding? (s : Suite) (effect : SideEffect) : Option Finding :=
  let callers := s.activeTests.filter (·.callsFunction effect.function)
  match callers with
  | [] => none
  | first :: _ =>
    if callers.any (looksAt · (Text.afterLast '.' effect.target)) then none
    else some
      { message :=
          effect.function ++ "() changes " ++ effect.target ++ " but no test checks the effect"
        span := first.span }

/-- The findings of changes, at most one for each function; `seen` are the functions that have
one. -/
def sideEffectFindings (s : Suite) (seen : List Text) : List SideEffect → List Finding
  | [] => []
  | effect :: rest =>
    if seen.contains effect.function then sideEffectFindings s seen rest
    else
      match sideEffectFinding? s effect with
      | some f => f :: sideEffectFindings s (effect.function :: seen) rest
      | none => sideEffectFindings s seen rest

/-- Changes that no test looks at. -/
def sideEffectNotVerified : Rule where
  id := "side-effect-not-verified"
  display := "Side effect not verified"
  severity := .info
  category := some .assertionQuality
  guidance := "Assert on the state change or mock call the function performs"
  requiresSource := true
  detect := some fun ctx =>
    .ok (if ctx.facts.available then sideEffectFindings ctx.suite [] ctx.facts.sideEffects else [])
  contribute := some (cappedDelta 2 6)

/-! ### Returned objects -/

/-- A property that is read. -/
def propertyPattern : Pattern :=
  seq (char '.') (group namePattern)

/-- A key of an object. -/
def objectKeyPattern : Pattern :=
  all [group namePattern, blanks, char ':']

/-- A property that is read of a result. -/
def resultPropertyPattern : Pattern :=
  all
    [wordEdge, texts ["result", "response", "res", "data", "output", "value", "ret"], char '.',
      group namePattern]

/-- The kept texts of all matches of a pattern. -/
def keptTexts (p : Pattern) (s : Text) : List Text :=
  (p.findAll s).flatMap (·.groups)

/-- The properties that an assertion mentions. -/
def assertionProperties (a : Assertion) : List Text :=
  keptTexts propertyPattern a.subject ++ a.args.flatMap fun arg =>
    keptTexts objectKeyPattern arg ++ keptTexts propertyPattern arg ++
      if a.matcher == "toHaveProperty" then
        [Text.through (Chars.stripBy fun c => c == '\'' || c == '"' || c == '\x60') arg]
      else []

/-- Properties that every value has, or every promise. -/
def ignoredProperties : List Text :=
  ["then", "catch", "finally", "length"]

/-- **The properties that the tests read or match on**, in lower case, each once. -/
def assertedProperties (s : Suite) : List Text :=
  let found := s.assertions.flatMap assertionProperties ++
    s.lines.flatMap (keptTexts resultPropertyPattern)
  (found.map Text.lower).eraseDups.filter (!ignoredProperties.contains ·)

/-- The properties that a function returns, each once. -/
def returnedKeys (facts : SourceFacts) (function : Text) : List Text :=
  ((facts.returns.filter (·.function == function)).flatMap (·.keys)).eraseDups

/-- What a function is told whose returned properties are not all looked at. -/
def partialResultFinding? (ctx : RuleContext) (text : Text) (asserted : List Text)
    (function : Text) : Option Finding :=
  let keys := returnedKeys ctx.facts function
  let missing := keys.filter fun k => !asserted.contains (Text.lower k)
  let verified := keys.length - missing.length
  let tests := ctx.suite.activeTests
  let span := ((tests.find? (·.callsFunction function)).or tests.head?).map (·.span)
  let list := Text.join ", " missing
  if keys.length < 2 || !Text.contains text (Text.lower function) || missing.isEmpty then none
  else if 2 * verified < keys.length then
    span.map fun span =>
      { message :=
          function ++ "() returns " ++ toString keys.length ++
            " properties but tests only verify " ++ toString verified ++ " (missing: " ++ list ++
            ")"
        span, severity := some .warning }
  else
    span.map fun span =>
      { message := function ++ "() result property not asserted: " ++ list, span }

/-- Results of which tests look at a part only. -/
def behavioralCompleteness : Rule where
  id := "behavioral-completeness"
  display := "Partial result verification"
  severity := .info
  category := some .assertionQuality
  guidance :=
    "Assert every property of the returned object, or match the whole object with toEqual"
  requiresSource := true
  detect := some fun ctx =>
    let asserted := assertedProperties ctx.suite
    if !ctx.facts.available || asserted.isEmpty then .ok []
    else
      let text := Text.lower (Text.join "\n" ctx.suite.lines)
      let functions := (ctx.facts.returns.map (·.function)).eraseDups.mergeSort Text.le
      .ok (functions.filterMap (partialResultFinding? ctx text asserted))
  contribute := some (cappedDelta 4 12)

end SuiteAudit.Rules
