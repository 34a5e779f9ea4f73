import SuiteAudit.Text.Chars

/-!
# Lines of a text

A text is cut at every line break of the Unicode standard and at the three upper information
separators. A carriage return followed by a line feed is one break, and a break at the very end
opens no further line.
-/

namespace SuiteAudit

namespace Chars

/-- **A character that ends a line.** -/
def isLineBreak (p : CodePoint) : Bool :=
  let n := p.code
  (0xA ≤ n && n ≤ 0xD) || (0x1C ≤ n && n ≤ 0x1E) || n == 0x85 || n == 0x2028 || n == 0x2029

/-- The lines of the text, where `line` is what was read of the first one, in reverse. -/
def linesFrom (line : List CodePoint) : List CodePoint → List (List CodePoint)
  | [] => if line.isEmpty then [] else [line.reverse]
  | .char '\r' :: .char '\n' :: rest => line.reverse :: linesFrom [] rest
  | c :: rest =>
    if isLineBreak c then line.reverse :: linesFrom [] rest else linesFrom (c :: line) rest

/-- **The lines of a text**, without their breaks. -/
def lines (s : List CodePoint) : List (List CodePoint) :=
  linesFrom [] s

end Chars

/-- The lines of a text, without their breaks. -/
def Text.lines (s : Text) : List Text :=
  (Chars.lines s.points).map Text.mk

end SuiteAudit
