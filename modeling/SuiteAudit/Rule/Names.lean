import SuiteAudit.Rule.Basic
import SuiteAudit.Text.Case
import SuiteAudit.Suite.NameIntent
import SuiteAudit.Strength

/-!
# Rules on names

Names that are used twice, that say nothing, or that promise what the test does not check.
-/

namespace SuiteAudit.Rules

open Text Text.Pattern

/-! ### Duplicate names -/

/-- What makes a name unique: the blocks around the test, and the name without outer blanks. -/
def nameKey (t : TestCase) : List Text × Text :=
  (t.describes, Text.strip t.name)

/-- The findings of the tests that share a name. -/
def duplicateFindings (group : List TestCase) : List Finding :=
  match group with
  | [] => []
  | first :: rest => rest.map fun t =>
    { message :=
        "Test name '" ++ Text.strip t.name ++ "' is already used on line " ++
          toString first.span.line
      span := t.span }

/-- Names used twice in a block. -/
def duplicateTestName : Rule where
  id := "duplicate-test-name"
  display := "Duplicate test name"
  severity := .error
  category := none
  guidance := "Give every test in a describe block a unique name"
  detect := some fun ctx =>
    let tests := ctx.suite.tests.filter (!·.parameterized)
    .ok ((tests.map nameKey).eraseDups.flatMap fun key =>
      duplicateFindings (tests.filter (nameKey · == key)))

/-! ### Vague names -/

/-- Names that describe no behaviour. -/
def vaguePattern : Pattern :=
  let number := seq blanks digits
  let tests := seq (word "test") (opt (word "s"))
  all
    [start,
      first
        [empty, tests, word "it", seq (word "work") (opt (word "s")), word "it works",
          word "should work", word "works correctly",
          seq (word "does ") (words ["it", "something", "stuff"]), seq tests number,
          seq (word "case") number,
          all [word "handle", opt (word "s"), word " ", words ["it", "this", "that"]], word "ok",
          seq (word "correct") (opt (word "ly")), word "basic", word "simple", word "example",
          word "stuff", word "foo", word "bar", word "todo", word "should pass", word "passes",
          word "happy path", word "default"],
      stop]

/-- Verbs that stand in names without an ending. -/
def baseVerbs : List Text :=
  List.map Text.ofString
    ["should", "can", "cannot", "must", "will", "does", "do", "is", "are", "has", "have",
      "return", "throw", "render", "show", "hide", "reject", "resolve", "accept", "allow", "call",
      "create", "update", "delete", "handle", "parse", "format", "validate", "emit", "convert",
      "compute", "calculate", "display", "load", "save", "send", "fail", "keep", "set", "get",
      "add", "remove", "sort", "filter", "map", "build", "open", "close", "match", "equal",
      "contain", "include", "exclude", "skip", "retry", "redirect", "navigate", "submit", "clear",
      "reset", "apply", "trim", "round", "split", "merge", "log", "use", "make", "give", "find",
      "work", "ignore", "treat", "wrap", "fall"]

/-- Whether a word is a verb, or looks like one by its ending. -/
def isVerb (word : Text) : Bool :=
  baseVerbs.contains word ||
    (3 < word.length && Text.endsWithAny word ["s", "ed", "ing"] && !Text.endsWith word "ss")

/-- **Whether a name states a behaviour**, loosely: one of its words is a verb. -/
def hasVerb (name : Text) : Bool :=
  let isLetter (c : CodePoint) : Bool := Text.isAsciiLetter c || c == '\''
  let words := Chars.split (!isLetter ·) (Text.lower name).points
  words.any fun word => !word.isEmpty && isVerb (Text.mk word)

/-- What a vague name is told. -/
def vagueFinding? (t : TestCase) : Option Finding :=
  let name := Text.strip t.name
  if vaguePattern.matchesStart name then
    some { message := "Test name '" ++ name ++ "' does not describe a behaviour", span := t.span }
  else if hasVerb name then none
  else
    some
      { message := "Test name '" ++ name ++ "' has no verb", span := t.span
        severity := some .info }

/-- Names without content. -/
def vagueTestName : Rule where
  id := "vague-test-name"
  display := "Vague test name"
  severity := .warning
  category := none
  guidance := "Name the behaviour and the condition, e.g. 'returns 0 for an empty cart'"
  detect := some fun ctx =>
    .ok ((ctx.suite.tests.filter (!·.parameterized)).filterMap vagueFinding?)

/-! ### Names of generated tests -/

/-- The effect of findings that smell of generated tests. -/
def smellDelta (issues : List Issue) (ctx : RuleContext) : Except RuleFault Delta :=
  .ok { points := .whole (-min (Int.ofNat issues.length * ctx.smells.pointsPerSmell) 25) }

/-- Names that repeat no scenario and no outcome. -/
def parrotNames : List Text :=
  ["works", "returns value", "returns result", "is correct", "succeeds"]

/-- Generic names. -/
def parrotAssertion : Rule where
  id := "ai-parrot-assertion"
  display := "Parrot test name"
  severity := .info
  category := some .aiSmells
  guidance :=
    "Name the input and the expected result, e.g. 'returns 404 when the user is missing'"
  detect := some fun ctx => .ok <|
    (ctx.suite.activeTests.filter fun t =>
      parrotNames.contains (Text.lower (Text.strip t.name))).map fun t =>
        { message := "Generic test name '" ++ t.name ++ "' repeats no scenario or outcome"
          span := t.span }
  contribute := some smellDelta

/-- What a test is told whose assertions do not check what its name promises. -/
def intentFinding? (framework : Framework) (t : TestCase) : Option Finding :=
  if t.assertions.isEmpty then none
  else if NameIntent.callPattern.occursIn t.name then
    if t.assertions.any (·.checksCalls) then none
    else some
      { message := "Test '" ++ t.name ++ "' promises a call but never verifies one"
        span := t.span }
  else if NameIntent.valuePattern.occursIn t.name && t.assertions.all (isWeak · framework) then
    some
      { message := "Test '" ++ t.name ++ "' promises a value but only checks existence"
        span := t.span }
  else none

/-- Names that promise more than the assertions check. -/
def intentMismatch : Rule where
  id := "ai-intent-mismatch"
  display := "Name and assertions disagree"
  severity := .warning
  category := some .aiSmells
  guidance := "Make the assertions check what the test name promises"
  detect := some fun ctx =>
    .ok (ctx.suite.activeTests.filterMap (intentFinding? ctx.suite.framework))
  contribute := some smellDelta

end SuiteAudit.Rules
