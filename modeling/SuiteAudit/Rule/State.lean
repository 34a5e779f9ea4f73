import SuiteAudit.Rule.Names

/-!
# Rules on shared state

What leaks from test to test: variables that several tests change, tests named as the steps of one
story, and setup that outweighs what it is for.
-/

namespace SuiteAudit.Rules

open Text Text.Pattern

/-! ### Shared variables -/

/-- Whether no hook gives the variable back to every test afresh. -/
def neverReset (b : Binding) : Bool :=
  !b.resetBy.any (·.perTest)

/-- Whether the variable is set up once for all tests. -/
def setUpOnce (b : Binding) : Bool :=
  neverReset b && b.resetBy.contains .beforeAll

/-- Whether tests change the variable and nothing sets it up. -/
def isShared (b : Binding) : Bool :=
  !b.mutatedIn.isEmpty && neverReset b && !setUpOnce b

/-- The points that the variables declared on flagged lines cost. -/
def sharedStatePoints (bindings : List Binding) (flagged : List Int) : Int :=
  let counted := bindings.filter fun b => flagged.contains b.span.line && !b.mutatedIn.isEmpty
  wholeSum (counted.map fun b => 8 + 4 * Int.ofNat b.mutatedIn.length)

/-- What a shared variable is told. -/
def sharedFinding (b : Binding) : Finding where
  message :=
    "'" ++ b.name ++ "' is shared across tests and mutated in " ++
      toString b.mutatedIn.length ++ " test(s) without a reset"
  span := b.span

/-- Variables that tests share and change. -/
def sharedState : Rule where
  id := "shared-state"
  display := "Shared mutable state"
  severity := .warning
  category := some .testIsolation
  guidance := "Declare the value inside the test or reset it in beforeEach"
  detect := some fun ctx => .ok <| (ctx.suite.bindings.filter isShared).map sharedFinding
  contribute := some fun issues ctx =>
    .ok { points :=
      .whole (-min (sharedStatePoints ctx.suite.bindings (issues.map (·.span.line))) 25) }

/-! ### Order of tests -/

/-- A name that numbers a step. -/
def stepPattern : Pattern :=
  all
    [start, blanks, opt (seq (word "step") blanks), digits, blanks,
      oneOf fun c => c == ':' || c == '.' || c == ')' || c == '-']

/-- Blocks in ascending order. -/
def blockLe (a b : List Text) : Bool :=
  !decide (b.map Text.codes < a.map Text.codes)

/-- **The tests named as numbered steps**, by block, where a block has two or more of them. -/
def stepGroups (tests : List TestCase) : List (List TestCase) :=
  let steps := tests.filter fun t => stepPattern.matchesStart t.name
  let blocks := ((steps.map (·.describes)).eraseDups).mergeSort blockLe
  (blocks.map fun block => steps.filter (·.describes == block)).filter (2 ≤ ·.length)

/-- What a variable is told that is set up once and changed by several tests. -/
def setUpOnceFinding? (b : Binding) : Option Finding :=
  if setUpOnce b && 2 ≤ b.mutatedIn.length then
    some
      { message :=
          "'" ++ b.name ++ "' is set up once in beforeAll and mutated by " ++
            toString b.mutatedIn.length ++ " tests; later tests see earlier changes"
        span := b.span }
  else none

/-- What a group of numbered steps is told, at its second test. -/
def stepFinding? : List TestCase → Option Finding
  | first :: second :: rest =>
    let named (t : TestCase) : Text := "'" ++ t.name ++ "'"
    let list := Text.join ", " (((first :: second :: rest).take 3).map named)
    some
      { message :=
          "Tests named as numbered steps (" ++ list ++ ") suggest they rely on running in order"
        span := second.span }
  | _ => none

/-- Tests that rely on their order. -/
def orderDependentTests : Rule where
  id := "order-dependent-tests"
  display := "Order-dependent tests"
  severity := .warning
  category := some .testIsolation
  guidance := "Give every test its own setup so tests pass in any order and in isolation"
  detect := some fun ctx => .ok <|
    ctx.suite.bindings.filterMap setUpOnceFinding? ++
      (stepGroups ctx.suite.activeTests).filterMap stepFinding?
  contribute := some (cappedDelta 5 15)

/-! ### Setup -/

/-- Setup that supports few assertions. -/
def boilerplatePadding : Rule where
  id := "ai-boilerplate-padding"
  display := "Boilerplate padding"
  severity := .info
  category := some .aiSmells
  guidance := "Trim setup to what the assertions depend on"
  detect := some fun ctx =>
    let tests := ctx.suite.activeTests.length
    let hooks := ctx.suite.hooks.filter (·.kind.setsUp)
    let setup := wholeSum (hooks.map (·.statementCount))
    let assertions := ctx.suite.activeAssertionCount
    let enoughForTests : Float := ctx.smells.boilerplateAssertionsPerTest * Float.ofNat tests
    let smells := ctx.smells.boilerplateMinTests ≤ Int.ofNat tests &&
      ctx.smells.boilerplateMinSetup ≤ setup && Int.ofNat assertions < setup &&
      !(enoughForTests < Float.ofNat assertions)
    match smells, hooks with
    | true, first :: _ =>
      .ok [{ message :=
               toString setup ++ " setup statements support only " ++ toString assertions ++
                 " assertion(s)"
             span := first.span }]
    | _, _ => .ok []
  contribute := some smellDelta

end SuiteAudit.Rules
