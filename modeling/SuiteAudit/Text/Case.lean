import SuiteAudit.Text.Chars
import SuiteAudit.Text.Table.Title

/-!
# Lower case and capitals

The full lower-casing of the Unicode standard: every character has its counterpart, the dotted
capital I has two characters, and a capital sigma becomes the final form at the end of a word. A
capitalized text has its first character in title case, which may take several characters, and all
others in lower case.
-/

namespace SuiteAudit.Text

/-- The counterpart of a character in a table of runs; the character itself if it has none. -/
def counterpart (runs : Array (Nat × Nat × Nat × Int)) (c : Char) : Char :=
  let n := c.toNat
  match runs.find? fun (first, last, step, _) =>
      first ≤ n && n ≤ last && (n - first) % step == 0 with
  | some (_, _, _, offset) => Char.ofNat (Int.ofNat n + offset).toNat
  | none => c

/-! ### Lower case -/

/-- The lower-case counterpart of a single character, the dotted capital I and the sigma aside. -/
def lowerChar (c : Char) : Char :=
  if c.toNat < 0x80 then c.toLower else counterpart Table.lowering c

/-- A code point that the search for a neighbouring letter passes over. -/
def isCaseIgnorable (p : CodePoint) : Bool :=
  inRanges Table.caseIgnorable p.code

/-- A letter with a case. -/
def isCased (p : CodePoint) : Bool :=
  inRanges Table.cased p.code

/-- Whether the first code point that counts is a letter with a case. -/
def letterFollows (s : List CodePoint) : Bool :=
  (s.dropWhile isCaseIgnorable).head?.any isCased

/-- **The lower-case form of one character in its context**: a capital sigma after a letter and
before none is a final sigma. `before` runs backwards from the character. -/
def lowerWithin (before : List CodePoint) (c : Char) (after : List CodePoint) : List CodePoint :=
  if c == '\u03a3' then
    if letterFollows before && !letterFollows after then ['\u03c2'] else ['\u03c3']
  else if c == '\u0130' then ['i', '\u0307']
  else [lowerChar c]

/-- The lower-case form of the text that follows `before`, which runs backwards. Half of a surrogate
pair has no case. -/
def lowerFrom (before : List CodePoint) : List CodePoint → List CodePoint
  | [] => []
  | .char c :: rest => lowerWithin before c rest ++ lowerFrom (c :: before) rest
  | .surrogate s :: rest => .surrogate s :: lowerFrom (.surrogate s :: before) rest

/-- **The lower-case form of a text.** -/
def lower : Text → Text :=
  through (lowerFrom [])

/-! ### Capitals -/

/-- The form of a character at the start of a capitalized text. -/
def titleForm (c : Char) : List CodePoint :=
  if c.toNat < 0x80 then [c.toUpper]
  else
    match Table.titleGroups.find? (·.1 == c.toNat) with
    | some (_, group) => group.map CodePoint.ofCode
    | none => [counterpart Table.titling c]

/-- **The text capitalized**: its first character in title case, all others in lower case. -/
def capitalize : Text → Text :=
  through fun
    | [] => []
    | .char c :: rest => titleForm c ++ lowerFrom [c] rest
    | .surrogate s :: rest => .surrogate s :: lowerFrom [.surrogate s] rest

end SuiteAudit.Text
