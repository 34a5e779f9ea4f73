import SuiteAudit.Rule.Basic
import SuiteAudit.Text.Pattern

/-!
# Rules on lines

Rules that read the lines of a file as text: leftovers of debugging, code that depends on the clock
or on chance, queries that no user could make, and ways around the type checker.
-/

namespace SuiteAudit.Rules

open Text Text.Pattern

/-! ### Lines -/

/-- The lines of a suite with their numbers. -/
def numberedLines (s : Suite) : List (Text × Nat) :=
  s.lines.zipIdx 1

/-- Whether a line is a comment, or a line inside a block comment. -/
def isCommentLine (line : Text) : Bool :=
  Text.startsWithAny (Text.stripLeft line) ["//", "/*", "*"]

/-- The column of the first character that is not blank. -/
def firstColumn (line : Text) : Nat :=
  line.length - (Text.stripLeft line).length + 1

/-- An opening parenthesis, with blanks before it. -/
def callStart : Pattern :=
  seq blanks (char '(')

/-- Parentheses with nothing inside. -/
def emptyCall : Pattern :=
  all [blanks, char '(', blanks, char ')']

/-! ### Debug code -/

/-- A line that is a debugger statement. -/
def debuggerPattern : Pattern :=
  all [start, group blanks, text "debugger", blanks, opt (char ';'), blanks, stop]

/-- A line that starts with output to the console. -/
def consolePattern : Pattern :=
  all
    [start, blanks, text "console.",
      texts ["log", "debug", "info", "warn", "error", "trace", "dir", "table"], callStart]

/-- A line with a test in a comment. -/
def commentedTestPattern : Pattern :=
  all
    [start, blanks, text "//", blanks, texts ["it", "test", "describe"],
      opt (seq (char '.') wordChars), callStart]

/-- What debugging left on a line. -/
def debugFinding? (line : Text) (number : Nat) : Option Finding :=
  match debuggerPattern.matchStart line with
  | some m =>
    let indent := (m.groups.headD "").length
    let span := Span.of number (indent + 1) number ((Text.stripRight line).length + 1)
    some
      { message := "debugger statement left in test", span, severity := some .warning
        fix := some { span, replacement := "" } }
  | none =>
    let span := Span.of number (firstColumn line)
    if consolePattern.matchesStart line then
      some { message := "console output left in test", span }
    else if commentedTestPattern.matchesStart line then
      some { message := "Commented-out test", span }
    else none

/-- Debugging leftovers. -/
def debugCode : Rule where
  id := "debug-code"
  display := "Debug code left in test"
  severity := .info
  category := none
  guidance :=
    "Remove console output, debugger statements and commented-out tests before committing"
  detect := some fun ctx =>
    .ok ((numberedLines ctx.suite).filterMap fun (line, number) => debugFinding? line number)

/-! ### Flaky patterns -/

/-- Code that makes a test flaky, what is said of it, and whether fake timers make it safe. -/
structure FlakyPattern where
  pattern : Pattern
  message : Text
  timerSafe : Bool

/-- The patterns of flaky code. -/
def flakyPatterns : List FlakyPattern :=
  [{ pattern := all [wordEdge, text "Date.now", emptyCall]
     message := "Date.now() makes the result depend on the clock", timerSafe := true },
    { pattern := all [wordEdge, text "new Date", emptyCall]
      message := "new Date() makes the result depend on the clock", timerSafe := true },
    { pattern := all [wordEdge, text "Math.random", emptyCall]
      message := "Math.random() makes the test non-deterministic", timerSafe := false },
    { pattern := all [wordEdge, text "setTimeout", callStart]
      message := "setTimeout() in a test races the code under test", timerSafe := true },
    { pattern := all [wordEdge, text "waitForTimeout", callStart]
      message := "waitForTimeout() is a fixed sleep; wait for a condition instead"
      timerSafe := false },
    { pattern := all [wordEdge, text "cy.wait", callStart, blanks, digits, blanks, char ')']
      message := "cy.wait(ms) is a fixed sleep; wait on an alias instead", timerSafe := false }]

/-- The flaky patterns of a line. -/
def flakyFindings (fakeTimers : Bool) (line : Text) (number : Nat) : List Finding :=
  if isCommentLine line then []
  else flakyPatterns.filterMap fun p =>
    if p.timerSafe && fakeTimers then none
    else (p.pattern.search line).map fun m =>
      { message := p.message, span := .of number (m.first + 1) }

/-- Whether a suite installs fake timers. -/
def hasFakeTimers (s : Suite) : Bool :=
  s.mocks.any (·.kind == .timer)

/-- Dependence on clock, chance and fixed sleeps. -/
def flakyPattern : Rule where
  id := "flaky-pattern"
  display := "Flaky pattern"
  severity := .warning
  category := none
  guidance := "Control time and randomness with fake timers or injected values"
  detect := some fun ctx =>
    .ok ((numberedLines ctx.suite).flatMap fun (line, number) =>
      flakyFindings (hasFakeTimers ctx.suite) line number)

/-! ### Queries -/

/-- Whether a suite uses Testing Library. -/
def usesTestingLibrary (s : Suite) : Bool :=
  s.imports.any fun i => i.source.isOneOf ["@testing-library/react", "@testing-library/dom"]

/-- The findings of a pattern, one for each line of code that has it and not `instead`; only suites
that use Testing Library are read. -/
def queryFindings (pattern : Pattern) (instead : Option Pattern) (message : Text) (s : Suite) :
    List Finding :=
  if usesTestingLibrary s then
    (numberedLines s).filterMap fun (line, number) =>
      if isCommentLine line || instead.any (·.occursIn line) then none
      else (pattern.search line).map fun m => { message, span := .of number (m.first + 1) }
  else []

/-- The start of a Testing Library query. -/
def queryStart : Pattern :=
  all [wordEdge, texts ["get", "query", "find"], opt (text "All")]

/-- Queries on the container. -/
def preferScreen : Rule where
  id := "rtl-prefer-screen"
  display := "Container query instead of screen"
  severity := .warning
  category := none
  guidance :=
    "Query through screen (screen.getByRole, screen.getByText) instead of container.querySelector"
  detect := some fun ctx => .ok <|
    queryFindings (all [wordEdge, text "container.querySelector", opt (text "All"), callStart]) none
      "container.querySelector bypasses Testing Library queries" ctx.suite

/-- Queries by test id. -/
def preferSemantic : Rule where
  id := "rtl-prefer-semantic"
  display := "Test id instead of accessible query"
  severity := .info
  category := none
  guidance :=
    "Prefer getByRole or getByLabelText; keep test ids for elements with no accessible name"
  detect := some fun ctx => .ok <|
    queryFindings (all [queryStart, text "ByTestId", callStart])
      (some (all [queryStart, text "By", texts ["Role", "LabelText"], callStart]))
      "Query by test id where a role or label query would do" ctx.suite

/-- Synthetic events. -/
def preferUserEvent : Rule where
  id := "rtl-prefer-user-event"
  display := "fireEvent instead of userEvent"
  severity := .info
  category := none
  guidance :=
    "Use userEvent (await user.click(...)), which fires the full event sequence a user would"
  detect := some fun ctx => .ok <|
    queryFindings (seq wordEdge (text "fireEvent."))
      (some (all [wordEdge, text "userEvent", wordEdge]))
      "fireEvent dispatches a single synthetic event" ctx.suite

/-! ### Type checking -/

/-- A cast that gives up a type. -/
def castPattern : Pattern :=
  all [wordEdge, text "as", run1 isBlank, texts ["any", "unknown"], wordEdge]

/-- A comment that silences the compiler. -/
def suppressionPattern : Pattern :=
  all [text "@ts-", texts ["ignore", "expect-error"], wordEdge]

/-- How many casts make a finding. -/
def castLimit : Nat := 5

/-- The suppression on a line. -/
def suppression? (line : Text) (number : Nat) : Option Finding :=
  if suppressionPattern.occursIn line && Text.startsWith (Text.stripLeft line) "//" then
    some
      { message := "Compiler check suppressed with a @ts- directive"
        span := .of number ((Text.indexOf? line "@ts-").getD 0 + 1) }
  else none

/-- The findings from these lines on, after `casts` casts. -/
def typeFindingsFrom (casts : Nat) : List (Text × Nat) → List Finding
  | [] => []
  | (line, number) :: rest =>
    match suppression? line number with
    | some f => f :: typeFindingsFrom casts rest
    | none =>
      if isCommentLine line then typeFindingsFrom casts rest
      else
        let found := castPattern.findAll line
        let crossing :=
          if casts < castLimit then (found[castLimit - 1 - casts]?).toList else []
        crossing.map (fun m =>
          { message := "5 or more casts to any/unknown in this file"
            span := .of number (m.first + 1) }) ++
          typeFindingsFrom (casts + found.length) rest

/-- Casts and suppressions that bypass type checking. -/
def typeAssertionAbuse : Rule where
  id := "type-assertion-abuse"
  display := "Type checking bypassed"
  severity := .info
  category := some .assertionQuality
  guidance :=
    "Build correctly typed fixtures instead of casting to any or silencing the compiler"
  detect := some fun ctx => .ok (typeFindingsFrom 0 (numberedLines ctx.suite))
  contribute := some (cappedDelta 2 10)

end SuiteAudit.Rules
