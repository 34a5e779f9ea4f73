import SuiteAudit.Rule.Basic

/-!
# Rules on markers

Tests and blocks that keep others from running, or that do not run themselves.
-/

namespace SuiteAudit.Rules

/-- Tests and blocks that make the runner skip all others. -/
def focusedTest : Rule where
  id := "focused-test"
  display := "Focused test"
  severity := .warning
  category := none
  guidance := "Remove .only/fit/fdescribe so the whole suite runs"
  detect := some fun ctx => .ok <|
    (ctx.suite.markers.filter (·.focused)).map fun m =>
      { message := "'" ++ m.callee ++ "' makes the runner skip every other " ++ m.block.name
        span := m.span
        fix := some { span := m.span, replacement := m.unfocusedCallee } }

/-- Tests and blocks that are skipped. -/
def skippedTest : Rule where
  id := "skipped-test"
  display := "Skipped test"
  severity := .info
  category := none
  guidance := "Fix or delete skipped tests; skipped tests silently rot"
  detect := some fun ctx => .ok <|
    (ctx.suite.markers.filter (·.skipped)).map fun m =>
      { message := m.block.title ++ " '" ++ m.name ++ "' is skipped", span := m.span }

end SuiteAudit.Rules
