import SuiteAudit.Text.Basic
import SuiteAudit.Text.Character

/-!
# Cutting and searching text

The operations on text that the audit needs, on lists of code points, where they are recursions on
the data, and then on texts. `Chars` holds the lists, `Text` the texts.
-/

namespace SuiteAudit.Chars

/-! ### Trimming -/

/-- The text without its leading blanks. -/
def stripLeft (s : List CodePoint) : List CodePoint :=
  s.dropWhile Text.isBlank

/-- The text without its trailing blanks. -/
def stripRight (s : List CodePoint) : List CodePoint :=
  (s.reverse.dropWhile Text.isBlank).reverse

/-- The text without blanks at either end. -/
def strip (s : List CodePoint) : List CodePoint :=
  stripRight (stripLeft s)

/-- The text without the characters of `p` at either end. -/
def stripBy (p : CodePoint → Bool) (s : List CodePoint) : List CodePoint :=
  ((s.dropWhile p).reverse.dropWhile p).reverse

/-- Every run of blanks written as one space; `inRun` tells whether the last character was blank. -/
def squeezeFrom (inRun : Bool) : List CodePoint → List CodePoint
  | [] => []
  | c :: rest =>
    if Text.isBlank c then
      if inRun then squeezeFrom true rest else ' ' :: squeezeFrom true rest
    else c :: squeezeFrom false rest

/-- **One line of text**: runs of blanks become one space, and none is left at the ends. -/
def compact (s : List CodePoint) : List CodePoint :=
  strip (squeezeFrom false s)

/-! ### Cutting at a character -/

/-- The text up to the first `c`, or all of it. -/
def beforeFirst (c : CodePoint) (s : List CodePoint) : List CodePoint :=
  s.takeWhile (· != c)

/-- The text after the last `c`, or all of it. -/
def afterLast (c : CodePoint) (s : List CodePoint) : List CodePoint :=
  (s.reverse.takeWhile (· != c)).reverse

/-- The pieces between the characters of `p`; `piece` is what was read of the current one, in
reverse. -/
def splitFrom (p : CodePoint → Bool) (piece : List CodePoint) :
    List CodePoint → List (List CodePoint)
  | [] => [piece.reverse]
  | c :: rest =>
    if p c then piece.reverse :: splitFrom p [] rest else splitFrom p (c :: piece) rest

/-- **The pieces between the characters of `p`**, empty ones included: one more than there are
such characters. -/
def split (p : CodePoint → Bool) (s : List CodePoint) : List (List CodePoint) :=
  splitFrom p [] s

/-! ### Searching -/

/-- The text up to the first occurrence of `part`, or all of it. -/
def beforeText (part : List CodePoint) : List CodePoint → List CodePoint
  | [] => []
  | c :: rest => if part.isPrefixOf (c :: rest) then [] else c :: beforeText part rest

/-- Whether `part` occurs in the text. -/
def contains (part : List CodePoint) : List CodePoint → Bool
  | [] => part.isEmpty
  | c :: rest => part.isPrefixOf (c :: rest) || contains part rest

/-- How many code points stand before the first occurrence of `part`. -/
def indexOf? (part : List CodePoint) : List CodePoint → Option Nat
  | [] => if part.isEmpty then some 0 else none
  | c :: rest => if part.isPrefixOf (c :: rest) then some 0 else (indexOf? part rest).map (· + 1)

/-! ### Small laws -/

theorem length_splitFrom_pos (p : CodePoint → Bool) (piece s : List CodePoint) :
    0 < (splitFrom p piece s).length := by
  induction s generalizing piece with
  | nil => simp [splitFrom]
  | cons c rest ih => by_cases h : p c <;> simp [splitFrom, h, ih]

end SuiteAudit.Chars

namespace SuiteAudit.Text

/-! ### Texts -/

/-- A function on lists of code points, applied to a text. -/
def through (f : List CodePoint → List CodePoint) (s : Text) : Text :=
  ⟨f s.points⟩

/-- The text without its leading blanks. -/
def stripLeft (s : Text) : Text :=
  through Chars.stripLeft s

/-- The text without its trailing blanks. -/
def stripRight (s : Text) : Text :=
  through Chars.stripRight s

/-- The text without blanks at either end. -/
def strip (s : Text) : Text :=
  through Chars.strip s

/-- The text as one line, runs of blanks as one space and none at the ends. -/
def compact (s : Text) : Text :=
  through Chars.compact s

/-- Whether `s` starts with `part`. -/
def startsWith (s part : Text) : Bool :=
  part.points.isPrefixOf s.points

/-- Whether `s` starts with one of `parts`. -/
def startsWithAny (s : Text) (parts : List Text) : Bool :=
  parts.any (startsWith s)

/-- Whether `s` ends with `part`. -/
def endsWith (s part : Text) : Bool :=
  part.points.isSuffixOf s.points

/-- Whether `s` ends with one of `parts`. -/
def endsWithAny (s : Text) (parts : List Text) : Bool :=
  parts.any (endsWith s)

/-- Whether `part` occurs in `s`. -/
def contains (s part : Text) : Bool :=
  Chars.contains part.points s.points

/-- How many code points of `s` stand before the first occurrence of `part`. -/
def indexOf? (s part : Text) : Option Nat :=
  Chars.indexOf? part.points s.points

/-- The text up to the first `c`, or all of it. -/
def beforeFirst (c : CodePoint) (s : Text) : Text :=
  through (Chars.beforeFirst c) s

/-- The text after the last `c`, or all of it. -/
def afterLast (c : CodePoint) (s : Text) : Text :=
  through (Chars.afterLast c) s

/-- The pieces between the characters `c`, empty ones included. -/
def splitAt (c : CodePoint) (s : Text) : List Text :=
  (Chars.split (· == c) s.points).map Text.mk

/-- The text with every `old` written as `new`. -/
def replaceChar (old new : CodePoint) (s : Text) : Text :=
  through (List.map fun c => if c == old then new else c) s

/-- The text without its first and last character. -/
def inner (s : Text) : Text :=
  through (fun cs => cs.tail.dropLast) s

/-- The first `n` characters. -/
def take (n : Nat) (s : Text) : Text :=
  through (List.take n) s

/-- The text without its first `n` characters. -/
def drop (n : Nat) (s : Text) : Text :=
  through (List.drop n) s

/-- The texts in order, with `separator` between neighbours. -/
def join (separator : Text) : List Text → Text
  | [] => ""
  | s :: rest => ⟨s.points ++ rest.flatMap fun part => separator.points ++ part.points⟩

end SuiteAudit.Text
