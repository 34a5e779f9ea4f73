import SuiteAudit.Text.CodePoint

/-!
# Text

A text is a list of code points, so it can hold halves of surrogate pairs where a string cannot.
Every string is a text, and a text without such halves is a string: `string?_ofString`. Texts are
ordered by their code points.
-/

namespace SuiteAudit

/-- **A text.** -/
structure Text where
  points : List CodePoint
deriving Repr, DecidableEq, Inhabited

namespace Text

/-- **The text of a string.** -/
def ofString (s : String) : Text :=
  ⟨s.toList.map .char⟩

instance : Coe String Text := ⟨ofString⟩

/-- The text of the numbers of code points. -/
def ofCodes (codes : List Nat) : Text :=
  ⟨codes.map .ofCode⟩

/-- **The text of UTF-16 units.** -/
def ofUnits (units : List Nat) : Text :=
  ofCodes (joinPairs units)

/-- The numbers of the code points. -/
def codes (t : Text) : List Nat :=
  t.points.map CodePoint.code

/-- **The string of a text**, if it holds no half of a pair. -/
def string? (t : Text) : Option String :=
  (t.points.mapM CodePoint.char?).map String.ofList

/-- Whether there is nothing in the text. -/
def isEmpty (t : Text) : Bool :=
  t.points.isEmpty

/-- Whether the text is one of several. -/
def isOneOf (t : Text) (others : List Text) : Bool :=
  others.contains t

/-- How many code points the text has. -/
def length (t : Text) : Nat :=
  t.points.length

/-- One text after the other. -/
def append (a b : Text) : Text :=
  ⟨a.points ++ b.points⟩

instance : Append Text := ⟨append⟩

/-! ### Order -/

/-- **Whether one text comes before another**, by code points. -/
def lt (a b : Text) : Bool :=
  decide (a.codes < b.codes)

/-- Ascending order by code points, for sorting. -/
def le (a b : Text) : Bool :=
  !lt b a

/-! ### Small laws -/

/-- A string is found again in its text. -/
theorem string?_ofString (s : String) : (ofString s).string? = some s := by
  have points (cs : List Char) : (cs.map CodePoint.char).mapM CodePoint.char? = some cs := by
    induction cs with
    | nil => rfl
    | cons c rest ih => simp [ih, CodePoint.char?]
  simp [string?, ofString, points]

/-- Different strings are different texts. -/
theorem ofString_injective {s t : String} (h : ofString s = ofString t) : s = t := by
  have := congrArg string? h
  simpa [string?_ofString] using this

end Text

end SuiteAudit
