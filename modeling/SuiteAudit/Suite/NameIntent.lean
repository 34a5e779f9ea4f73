import SuiteAudit.Text.Pattern

/-!
# What a test name promises

Names are read for whole words, in whatever case: words about errors, about limits, about calls,
about values, and about changes.
-/

namespace SuiteAudit.NameIntent

open Text Text.Pattern

/-- One of the patterns as a whole word. -/
def wholeWord (patterns : List Pattern) : Pattern :=
  all [wordEdge, first patterns, wordEdge]

/-- A word with an optional ending. -/
def wordWith (stem ending : String) : Pattern :=
  all [word stem, opt (word ending)]

/-- Names about errors. -/
def errorPattern : Pattern :=
  wholeWord
    [wordWith "throw" "s", word "throwing", wordWith "error" "s", wordWith "reject" "s",
      word "rejected", wordWith "fail" "s", word "failure", word "invalid",
      wordWith "exception" "s", wordWith "refuse" "s"]

/-- Names about limits and edge values. -/
def boundaryPattern : Pattern :=
  wholeWord
    [word "boundary", word "boundaries", word "edge", wordWith "limit" "s", wordWith "min" "imum",
      wordWith "max" "imum", word "zero", word "empty", word "negative", word "null",
      word "undefined", word "overflow", word "threshold", word "exactly", word "at least",
      word "at most"]

/-- Names about the limit of a range itself. -/
def limitPattern : Pattern :=
  wholeWord
    [word "boundary", word "boundaries", wordWith "edge" "s", wordWith "limit" "s",
      wordWith "min" "imum", wordWith "max" "imum"]

/-- Names about something being called. -/
def callPattern : Pattern :=
  wholeWord
    [wordWith "call" "s", wordWith "invoke" "s", wordWith "trigger" "s", wordWith "fire" "s",
      wordWith "dispatch" "es", wordWith "emit" "s", seq (word "notif") (words ["y", "ies"])]

/-- Names about a value that comes back. -/
def valuePattern : Pattern :=
  wholeWord
    [wordWith "return" "s", wordWith "calculate" "s", wordWith "compute" "s", wordWith "equal" "s"]

/-- Names about a change of state. -/
def changePattern : Pattern :=
  wholeWord
    [wordWith "update" "s", word "updated", wordWith "set" "s", wordWith "add" "s", word "added",
      wordWith "remove" "s", word "removed", wordWith "create" "s", word "created",
      wordWith "save" "s", word "saved", wordWith "delete" "s", word "deleted"]

/-- Whether a name is about an error. -/
def namesError (name : Text) : Bool :=
  errorPattern.occursIn name

/-- Whether a name is about a limit or an edge value. -/
def namesBoundary (name : Text) : Bool :=
  boundaryPattern.occursIn name

end SuiteAudit.NameIntent
