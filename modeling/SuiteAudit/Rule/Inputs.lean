import SuiteAudit.Rule.Names
import SuiteAudit.Decimal.Written

/-!
# Rules on inputs

What tests feed to the code: the same values over and over, only the comfortable ones, and data that
looks real.
-/

namespace SuiteAudit.Rules

open Text Text.Pattern

/-! ### Repetition -/

/-- **What makes two calls the same**: the blocks around the test, the callee, and the text of the
arguments. -/
structure CallKey where
  describes : List Text
  callee : Text
  args : Text
deriving Repr, DecidableEq

/-- What has been seen of repeated calls: where each first came, and which have been reported. -/
structure RepetitionState where
  seen : List (CallKey × Nat) := []
  reported : List CallKey := []
  findings : List Finding := []

/-- Takes in one call of a test. -/
def RepetitionState.call (tests : List TestCase) (index : Nat) (t : TestCase)
    (state : RepetitionState) (call : Text × Text) : RepetitionState :=
  let key : CallKey := { describes := t.describes, callee := call.1, args := call.2 }
  match state.seen.lookup key with
  | none => { state with seen := (key, index) :: state.seen }
  | some first =>
    if first == index || state.reported.contains key then state
    else
      let firstName : Text := (tests[first]?.map (·.name)).getD ""
      { state with
        reported := key :: state.reported
        findings := state.findings ++
          [{ message :=
               call.1 ++ "(" ++ call.2 ++ ") is repeated in '" ++ firstName ++ "' and '" ++
                 t.name ++ "'"
             span := t.span }] }

/-- Takes in one test. -/
def RepetitionState.test (tests : List TestCase) (state : RepetitionState) (t : TestCase × Nat) :
    RepetitionState :=
  if t.1.isActive && !t.1.parameterized then
    t.1.literalCalls.eraseDups.foldl (call tests t.2 t.1) state
  else state

/-- Calls that several tests make with the same literals. -/
def repeatedLiteralInput : Rule where
  id := "repeated-literal-input"
  display := "Repeated literal input"
  severity := .warning
  category := some .inputVariety
  guidance := "Vary the inputs between tests, or fold them into one table-driven test"
  detect := some fun ctx =>
    let tests := ctx.suite.tests
    .ok (tests.zipIdx.foldl (RepetitionState.test tests) {}).findings
  contribute := some (cappedDelta 4 12)

/-! ### Variety -/

/-- The edge classes that make sense for parameters, by the text of their types. -/
def edgesOfParams (params : List Param) : List EdgeKind :=
  params.flatMap fun p =>
    let names := Text.contains (Text.lower p.typeText)
    (if names "number" || names "bigint" then [.zero, .negative] else []) ++
      (if names "string" then [.emptyString] else []) ++
      if p.optional || names "null" || names "undefined" then [.nullish]
      else []

/-- The edge classes that make sense for literals, by their kinds. -/
def edgesOfLiterals (args : List LiteralArg) : List EdgeKind :=
  (if args.any (·.literal.isNumber) then [.zero, .negative] else []) ++
    if args.any (·.literal.isText) then [.emptyString] else []

/-- The parameters with a type or a default of the functions that the tests call. -/
def calledParams (ctx : RuleContext) : List Param :=
  let called := ctx.facts.functions.filter fun f =>
    ctx.suite.activeTests.any (·.callsFunction f.name)
  (called.flatMap (·.params)).filter fun p => p.typeText != "" || p.optional

/-- **The edge classes worth testing**: by the signatures that the tests call where they are known,
by the literals otherwise. -/
def relevantEdges (ctx : RuleContext) (args : List LiteralArg) : List EdgeKind :=
  match if ctx.facts.available then calledParams ctx else [] with
  | [] => edgesOfLiterals args
  | params => edgesOfParams params

/-- The edge classes that inputs can lack, in the order of their names, with what they are
called. -/
def edgeLabels : List (EdgeKind × Text) :=
  [(.emptyString, "an empty string"), (.negative, "a negative number"),
    (.nullish, "null/undefined"), (.zero, "zero")]

/-- Edge classes that no input has. -/
def limitedInputVariety : Rule where
  id := "limited-input-variety"
  display := "Limited input variety"
  severity := .info
  category := some .inputVariety
  guidance :=
    "Add inputs such as 0, a negative number, an empty string or null where the signature " ++
      "allows them"
  detect := some fun ctx =>
    let args := ctx.suite.inputLiterals
    match Span.earliest? (args.map (·.span)) with
    | none => .ok []
    | some span =>
      let relevant := relevantEdges ctx args
      let present := edgeKinds args
      let missing := edgeLabels.filter fun (kind, _) =>
        relevant.contains kind && !present.contains kind
      .ok (missing.map fun (_, label) => { message := "No test input uses " ++ label, span })
  contribute := some (cappedDelta 2 8)

/-- The numbers that feed the code under test, with their values. -/
def numericInputs (s : Suite) : List (LiteralArg × Float) :=
  s.inputLiterals.filterMap fun a => a.literal.number?.map fun x => (a, x)

/-- What a callee is told that has seen a single number. Numbers from -1 to 1 are edges. -/
def singleValueFinding? (inputs : List (LiteralArg × Float)) (callee : Text) : Option Finding :=
  match inputs.filter (·.1.callee == callee) with
  | [] => none
  | (first, x) :: rest =>
    if rest.any (fun (_, y) => x != y) || (-1 ≤ x && x ≤ 1) then none
    else some
      { message := callee ++ "() is only ever called with " ++ Decimal.plainText x
        span := first.span }

/-- Functions that are called with a single number. -/
def singleValueBoundary : Rule where
  id := "single-value-boundary"
  display := "Single-value numeric input"
  severity := .warning
  category := some .boundaryConditions
  guidance := "Call the function with several values, including the edges of its valid range"
  detect := some fun ctx =>
    let inputs := (numericInputs ctx.suite).filter fun (a, _) =>
      a.callee != "" && a.callee != "each"
    let callees := (inputs.map (·.1.callee)).eraseDups.mergeSort Text.le
    .ok (callees.filterMap (singleValueFinding? inputs))
  contribute := some (cappedDelta 3 15)

/-- Tests that all expect the same. -/
def shallowVariety : Rule where
  id := "ai-shallow-variety"
  display := "Shallow expected values"
  severity := .info
  category := some .aiSmells
  guidance := "Check different expected results across tests instead of the same value every time"
  detect := some fun ctx =>
    let s := ctx.suite
    let expected := s.literals.filter fun a => a.role == .expected && s.isActiveIndex a.testIndex
    let testCount := (expected.map (·.testIndex)).eraseDups.length
    let distinct := (expected.map (·.text)).eraseDups.length
    if Int.ofNat s.activeTests.length < ctx.smells.shallowMinTests ||
        Int.ofNat testCount < ctx.smells.shallowMinTests ||
        ctx.smells.shallowMaxDistinct < Int.ofNat distinct then .ok []
    else
      match expected, Span.earliest? (expected.map (·.span)) with
      | first :: _, some span =>
        .ok [{ message := "Every test expects the same value " ++ first.text, span }]
      | _, _ => .error .noExpectedValue
  contribute := some smellDelta

/-- Files without an error case or an edge value. -/
def happyPathOnly : Rule where
  id := "ai-happy-path-only"
  display := "Happy path only"
  severity := .warning
  category := some .aiSmells
  guidance := "Add tests for invalid input, error paths and edge values"
  detect := some fun ctx =>
    let s := ctx.suite
    let tests := s.activeTests.length
    let telling := s.literals.filter fun a =>
      s.isActiveIndex a.testIndex && a.role != .incidental
    if Int.ofNat tests < ctx.smells.happyPathMinTests || !s.errorTests.isEmpty ||
        !(edgeKinds telling).isEmpty then .ok []
    else
      .ok
        [{ message := toString tests ++ " tests, none with an error case or an edge value"
           span := .of 1 }]
  contribute := some smellDelta

/-! ### Real data -/

/-- An address of electronic mail; its domain is kept. -/
def emailPattern : Pattern :=
  let label := run1 fun c => isWord c || c == '-'
  all
    [start, run1 fun c => isWord c || c == '.' || c == '+' || c == '-', char '@',
      group (seq label (some1 (seq (char '.') label))), stop]

/-- A domain that nobody owns. -/
def placeholderPattern : Pattern :=
  all
    [first [start, char '.'],
      first
        [seq (word "example.") (words ["com", "org", "net"]), word "test", word "example",
          word "invalid", word "localhost", word "test.com", word "fake.com"],
      stop]

/-- **Whether a text is an address that could be somebody's.** -/
def looksRealEmail (text : Text) : Bool :=
  match emailPattern.matchStart text with
  | some m => !placeholderPattern.occursIn (m.groups.headD "")
  | none => false

/-- The first literal of each distinct text. -/
def firstOfEach (texts : List (Text × LiteralArg)) : List (Text × LiteralArg) :=
  (texts.map (·.1)).eraseDups.filterMap fun s => (texts.lookup s).map fun a => (s, a)

/-- Data that looks real. -/
def hardcodedValues : Rule where
  id := "hardcoded-values"
  display := "Real-looking hardcoded data"
  severity := .info
  category := some .inputVariety
  guidance := "Use obviously fake fixtures (user@example.com) or a data builder"
  detect := some fun ctx =>
    let emails := ctx.suite.literals.filterMap fun a =>
      (a.literal.text?.filter looksRealEmail).map fun s => (s, a)
    let sorted := (firstOfEach emails).mergeSort fun x y => Text.le x.1 y.1
    .ok (sorted.map fun (s, a) =>
      { message := "Real-looking email address '" ++ s ++ "' in test data", span := a.span })
  contribute := some (cappedDelta 1 4)

end SuiteAudit.Rules
