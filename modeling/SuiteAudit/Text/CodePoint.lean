/-!
# Code points

Formats that count in UTF-16 units write the characters beyond the first plane as pairs of
surrogates, and can hold half of a pair alone. Such a half has a code point but is no character, so
a code point is one or the other. `CodePoint.code` is its number, by which it is found again:
`ofCode_code`.
-/

namespace SuiteAudit

/-! ### Surrogates -/

/-- The first half of a surrogate pair. -/
def isHighSurrogate (n : Nat) : Bool :=
  0xD800 ≤ n && n < 0xDC00

/-- The second half of a surrogate pair. -/
def isLowSurrogate (n : Nat) : Bool :=
  0xDC00 ≤ n && n < 0xE000

/-- Whether a number is that of half a pair. -/
def isSurrogate (n : Nat) : Bool :=
  isHighSurrogate n || isLowSurrogate n

/-- The number of the character that a surrogate pair writes. -/
def pairCode (high low : Nat) : Nat :=
  0x10000 + (high - 0xD800) * 0x400 + (low - 0xDC00)

/-- The numbers of code points, which run backwards, and one more UTF-16 unit. -/
def joinUnit (read : List Nat) (unit : Nat) : List Nat :=
  match read with
  | [] => [unit]
  | high :: before =>
    if isHighSurrogate high && isLowSurrogate unit then pairCode high unit :: before
    else unit :: read

/-- **The numbers of the code points of UTF-16 units**, a half of a pair on its own standing for
itself. -/
def joinPairs (units : List Nat) : List Nat :=
  (units.foldl joinUnit []).reverse

/-- Surrogates are the numbers from `0xD800` on and below `0xE000`. -/
theorem isSurrogate_iff {n : Nat} : isSurrogate n = true ↔ 0xD800 ≤ n ∧ n < 0xE000 := by
  simp only [isSurrogate, isHighSurrogate, isLowSurrogate, Bool.or_eq_true, Bool.and_eq_true,
    decide_eq_true_eq]
  omega

/-- No character is half of a pair. -/
theorem isSurrogate_toNat (c : Char) : isSurrogate c.toNat = false := by
  rw [← Bool.not_eq_true, isSurrogate_iff]
  have valid : c.toNat < 0xD800 ∨ (0xDFFF < c.toNat ∧ c.toNat < 0x110000) := c.valid
  omega

/-! ### Code points -/

/-- **Half of a surrogate pair**, standing alone. -/
structure Surrogate where
  code : Nat
  isSurrogate : isSurrogate code = true
deriving Repr, DecidableEq

/-- **A code point**: a character, or half of a surrogate pair. -/
inductive CodePoint where
  | char (c : Char)
  | surrogate (s : Surrogate)
deriving Repr, DecidableEq

namespace CodePoint

instance : Inhabited CodePoint := ⟨char default⟩

instance : Coe Char CodePoint := ⟨char⟩

/-- **The number of a code point.** -/
def code : CodePoint → Nat
  | char c => c.toNat
  | surrogate s => s.code

/-- **The code point of a number.** -/
def ofCode (n : Nat) : CodePoint :=
  if h : isSurrogate n = true then surrogate ⟨n, h⟩ else char (Char.ofNat n)

/-- The character, if the code point is one. -/
def char? : CodePoint → Option Char
  | char c => some c
  | surrogate _ => none

/-- Whether the code point is a character of a class. Half of a pair is in none. -/
def isIn (accepts : Char → Bool) : CodePoint → Bool
  | char c => accepts c
  | surrogate _ => false

/-! ### Small laws -/

/-- A code point is found again by its number. -/
theorem ofCode_code (p : CodePoint) : ofCode p.code = p := by
  cases p with
  | char c =>
    have h : isSurrogate c.toNat = false := isSurrogate_toNat c
    simp [ofCode, code, h]
  | surrogate s => simp [ofCode, code, s.isSurrogate]

/-- Code points with the same number are the same. -/
theorem code_injective {p q : CodePoint} (h : p.code = q.code) : p = q := by
  rw [← ofCode_code p, h, ofCode_code]

end CodePoint

end SuiteAudit
