/-!
# Spans of a file

Lines and columns of a file count from one. A span never ends above its first line; where it starts
is for its maker to say, so it may name a place that no file has.
-/

namespace SuiteAudit

/-- **A stretch of a file**, its lines included at both ends. -/
structure Span where
  line : Int
  column : Int
  endLine : Int
  endColumn : Int
  line_le_endLine : line ≤ endLine
deriving Repr, DecidableEq

namespace Span

/-- The span of four numbers; a last line above the first is read as the first. -/
def of (line : Int) (column : Int := 1) (endLine : Int := 0) (endColumn : Int := 0) : Span :=
  { line, column, endLine := max line endLine, endColumn
    line_le_endLine := Int.le_max_left line endLine }

instance : Inhabited Span := ⟨of 1⟩

/-- Whether a line belongs to the span. -/
def containsLine (s : Span) (line : Int) : Bool :=
  s.line ≤ line && line ≤ s.endLine

/-- How many lines the span takes. -/
def lineCount (s : Span) : Int :=
  s.endLine - s.line + 1

/-- The numbers of a span in order. -/
def toList (s : Span) : List Int :=
  [s.line, s.column, s.endLine, s.endColumn]

/-- **Order by first line, then column, then last line and column.** -/
def le (a b : Span) : Bool :=
  !decide (b.toList < a.toList)

/-- The earliest of a list of spans. -/
def earliest? : List Span → Option Span
  | [] => none
  | s :: rest => some (rest.foldl (fun best t => if le best t then best else t) s)

theorem mem_containsLine {s : Span} {line : Int} :
    s.containsLine line = true ↔ s.line ≤ line ∧ line ≤ s.endLine := by
  simp [containsLine]

theorem lineCount_pos (s : Span) : 0 < s.lineCount := by
  have := s.line_le_endLine
  unfold lineCount
  omega

end Span

end SuiteAudit
