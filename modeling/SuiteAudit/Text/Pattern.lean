import SuiteAudit.Text.Chars

/-!
# Patterns of text

A small language of patterns and its matcher. `Pattern.ends` lists where a match that starts at a
cursor can end, in order of preference: the left alternative before the right one, and one more
round of a repetition before none. The match is the first of them, so every choice is settled as
soon as it can be. A run of a class always takes all that there is of it, so it is for classes that
hold no character with which the pattern can go on; giving characters back would then gain nothing.
`search` finds the leftmost match, `matchStart` asks for one at the start of the text, and `findAll`
lists the matches that follow one another.
-/

namespace SuiteAudit.Text

/-- **A pattern of text.** -/
inductive Pattern where
  /-- The empty text. -/
  | empty
  /-- One character of a class. -/
  | oneOf (accepts : CodePoint → Bool)
  /-- The start of the text. -/
  | start
  /-- The end of the text, or the place before a line feed that ends it. -/
  | stop
  /-- A place with a word character on exactly one side. -/
  | wordEdge
  /-- The first pattern, then the second. -/
  | seq (first second : Pattern)
  /-- The left pattern, or else the right one. -/
  | alt (left right : Pattern)
  /-- All characters of a class that follow in a row, be they none. -/
  | run (accepts : CodePoint → Bool)
  /-- The pattern as often as possible, or not at all. -/
  | many (body : Pattern)
  /-- The pattern, whose text is kept. -/
  | group (body : Pattern)

/-- **A place in a text**: the character before it, its index, what follows, and the texts kept so
far, the latest first, each as what followed its start and its length. -/
structure Cursor where
  last : Option CodePoint
  index : Nat
  rest : List CodePoint
  kept : List (List CodePoint × Nat)

namespace Cursor

/-- The place before the whole text. -/
def ofChars (s : List CodePoint) : Cursor :=
  { last := none, index := 0, rest := s, kept := [] }

/-- The place after the next character, if that is one that `accepts` takes. -/
def step? (accepts : CodePoint → Bool) (at_ : Cursor) : Option Cursor :=
  match at_.rest with
  | c :: rest =>
    if accepts c then some { at_ with last := some c, index := at_.index + 1, rest } else none
  | [] => none

/-- The place after the next `n` characters. -/
def skip (at_ : Cursor) : (n : Nat) → Cursor
  | 0 => at_
  | n + 1 =>
    { at_ with
      last := at_.rest[n]?, index := at_.index + (n + 1), rest := at_.rest.drop (n + 1) }

/-- Whether a word starts or ends here. -/
def isWordEdge (at_ : Cursor) : Bool :=
  at_.last.any isWord != at_.rest.head?.any isWord

end Cursor

namespace Pattern

/-! ### Matching -/

/-- How many characters `accepts` takes in a row, and `n` more. -/
def runLength (accepts : CodePoint → Bool) (n : Nat) : List CodePoint → Nat
  | [] => n
  | c :: rest => if accepts c then runLength accepts (n + 1) rest else n

/-- A run is as long as what `accepts` takes of the text. -/
theorem runLength_eq (accepts : CodePoint → Bool) (n : Nat) (s : List CodePoint) :
    runLength accepts n s = n + (s.takeWhile accepts).length := by
  induction s generalizing n with
  | nil => rfl
  | cons c rest ih =>
    by_cases h : accepts c
    · simp [runLength, h, ih]
      omega
    · simp [runLength, h]

/-- Where as many rounds of `round` as possible can end, longer runs first. A round that reads
nothing is no round; `fuel` is as long as the text that is left. -/
def endsMany (round : Cursor → List Cursor) : (fuel : List CodePoint) → Cursor → List Cursor
  | [], at_ => [at_]
  | _ :: fuel, at_ =>
    ((round at_).filter (at_.index < ·.index)).flatMap (endsMany round fuel) ++ [at_]

/-- **Where a match from this place can end**, in order of preference. -/
def ends : Pattern → Cursor → List Cursor
  | empty, at_ => [at_]
  | oneOf accepts, at_ => (at_.step? accepts).toList
  | start, at_ => if at_.index == 0 then [at_] else []
  | stop, at_ => if at_.rest.isEmpty || at_.rest == [.char '\n'] then [at_] else []
  | wordEdge, at_ => if at_.isWordEdge then [at_] else []
  | seq first second, at_ => (first.ends at_).flatMap second.ends
  | alt left right, at_ => left.ends at_ ++ right.ends at_
  | run accepts, at_ => [at_.skip (runLength accepts 0 at_.rest)]
  | many body, at_ => endsMany body.ends at_.rest at_
  | group body, at_ => (body.ends at_).map fun e =>
      { e with kept := (at_.rest, e.index - at_.index) :: e.kept }

/-- **A match**: where it starts and ends, in characters, and the texts of its groups. -/
structure Match where
  first : Nat
  last : Nat
  groups : List Text
deriving Repr, DecidableEq

/-- The preferred match from this place. -/
def matchAt? (p : Pattern) (at_ : Cursor) : Option Match :=
  (p.ends at_).head?.map fun e =>
    { first := at_.index, last := e.index
      groups := e.kept.reverse.map fun (rest, n) => ⟨rest.take n⟩ }

/-- The leftmost match at or after this place, with `rest` still to come. -/
def searchFrom (p : Pattern) (last : Option CodePoint) (index : Nat) :
    List CodePoint → Option Match
  | [] => p.matchAt? { last, index, rest := [], kept := [] }
  | c :: rest =>
    match p.matchAt? { last, index, rest := c :: rest, kept := [] } with
    | some m => some m
    | none => searchFrom p (some c) (index + 1) rest

/-- The matches from this place on; the next `skip` characters belong to the match before. -/
def findAllFrom (p : Pattern) (last : Option CodePoint) (index skip : Nat) :
    List CodePoint → List Match
  | [] => []
  | c :: rest =>
    if skip > 0 then findAllFrom p (some c) (index + 1) (skip - 1) rest
    else
      match p.matchAt? { last, index, rest := c :: rest, kept := [] } with
      | some m => m :: findAllFrom p (some c) (index + 1) (m.last - m.first - 1) rest
      | none => findAllFrom p (some c) (index + 1) 0 rest

/-- **The leftmost match in a text.** -/
def search (p : Pattern) (s : Text) : Option Match :=
  searchFrom p none 0 s.points

/-- Whether the pattern matches somewhere in the text. -/
def occursIn (p : Pattern) (s : Text) : Bool :=
  (p.search s).isSome

/-- **The match at the start of a text.** -/
def matchStart (p : Pattern) (s : Text) : Option Match :=
  p.matchAt? (Cursor.ofChars s.points)

/-- Whether the pattern matches at the start of the text. -/
def matchesStart (p : Pattern) (s : Text) : Bool :=
  (p.matchStart s).isSome

/-- **The matches that follow one another** in a text, for patterns that read something. -/
def findAll (p : Pattern) (s : Text) : List Match :=
  findAllFrom p none 0 0 s.points

/-! ### Building patterns -/

/-- The patterns one after another. -/
def all : List Pattern → Pattern
  | [] => empty
  | [p] => p
  | p :: rest => seq p (all rest)

/-- The first of the patterns that matches. -/
def first : List Pattern → Pattern
  | [] => oneOf fun _ => false
  | [p] => p
  | p :: rest => alt p (first rest)

/-- The pattern, or nothing. -/
def opt (p : Pattern) : Pattern :=
  alt p empty

/-- The pattern once or more. -/
def some1 (p : Pattern) : Pattern :=
  seq p (many p)

/-- All characters of a class that follow in a row, at least one. -/
def run1 (accepts : CodePoint → Bool) : Pattern :=
  seq (oneOf accepts) (run accepts)

/-- One given character. -/
def char (c : CodePoint) : Pattern :=
  oneOf (· == c)

/-- A text, letter by letter. -/
def text (s : Text) : Pattern :=
  all (s.points.map char)

/-- One of several texts. -/
def texts (ss : List Text) : Pattern :=
  first (ss.map text)

/-- **Whether `c` is the lower-case ASCII letter `letter` in some case.** Besides the two ASCII
forms the long s, the Kelvin sign, and the two forms of i with and without a dot count. -/
def sameLetter (letter c : Char) : Bool :=
  c == letter || c.toLower == letter || (letter == 's' && c == '\u017f') ||
    (letter == 'k' && c == '\u212a') || (letter == 'i' && (c == '\u0130' || c == '\u0131'))

/-- A word in lower-case ASCII letters, in whatever case it is written. -/
def word (s : String) : Pattern :=
  all (s.toList.map fun letter => oneOf (·.isIn (sameLetter letter)))

/-- One of several words, in whatever case. -/
def words (ss : List String) : Pattern :=
  first (ss.map word)

/-- Any number of blanks. -/
def blanks : Pattern :=
  run isBlank

/-- A row of word characters. -/
def wordChars : Pattern :=
  run1 isWord

/-- A row of decimal digits. -/
def digits : Pattern :=
  run1 isDigit

end Pattern

end SuiteAudit.Text
