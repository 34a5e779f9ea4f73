import SuiteAudit.Text.CodePoint
import SuiteAudit.Text.Table.Alphanumeric
import SuiteAudit.Text.Table.Digit
import SuiteAudit.Text.Table.Case
import SuiteAudit.Text.Table.Unprintable

/-!
# Classes of code points

The classes that the audit reads text by: blanks, word characters, decimal digits, capitals, and
characters with a visible form. All of them cover every script; ASCII is decided by comparison and
the rest by the tables of `SuiteAudit.Text.Table`. Half of a surrogate pair is in none of them.
-/

namespace SuiteAudit.Text

/-! ### Tables -/

/-- Whether `n` lies in one of the ranges `rs[lo], …, rs[hi - 1]`, which ascend. The middle range
tells which half can still hold `n`. -/
def inRangesBetween (rs : Array (Nat × Nat)) (n lo hi : Nat) : Bool :=
  if lo < hi then
    let mid := (lo + hi) / 2
    match rs[mid]? with
    | none => false
    | some (first, last) =>
      if n < first then inRangesBetween rs n lo mid
      else if last < n then inRangesBetween rs n (mid + 1) hi
      else true
  else false
termination_by hi - lo

/-- Whether `n` lies in one of the ascending ranges `rs`. -/
def inRanges (rs : Array (Nat × Nat)) (n : Nat) : Bool :=
  inRangesBetween rs n 0 rs.size

/-! ### Classes -/

/-- **Unicode white space**: the ASCII blanks, the four information separators, and the spaces of
other scripts. -/
def isBlank (p : CodePoint) : Bool :=
  let n := p.code
  (0x9 ≤ n && n ≤ 0xD) || (0x1C ≤ n && n ≤ 0x20) || n == 0x85 || n == 0xA0 || n == 0x1680 ||
    (0x2000 ≤ n && n ≤ 0x200A) || n == 0x2028 || n == 0x2029 || n == 0x202F || n == 0x205F ||
    n == 0x3000

/-- **A word character** is a letter or a numeral of any script, or the low line. -/
def isWord (p : CodePoint) : Bool :=
  p.isIn fun c =>
    if c.toNat < 0x80 then c.isAlphanum || c == '_'
    else inRanges Table.alphanumeric c.toNat

/-- **The value of a decimal digit** of any script. -/
def digit? (p : CodePoint) : Option Nat :=
  let n := p.code
  if n < 0x80 then
    if 0x30 ≤ n && n < 0x3A then some (n - 0x30) else none
  else
    (Table.zeros.find? fun z => z ≤ n && n < z + 10).map (n - ·)

/-- A decimal digit of any script. -/
def isDigit (p : CodePoint) : Bool :=
  (digit? p).isSome

/-- **A capital letter** of any script. -/
def isUpper (p : CodePoint) : Bool :=
  p.isIn fun c =>
    let n := c.toNat
    if n < 0x80 then c.isUpper
    else Table.uppercase.any fun (first, last, step) =>
      first ≤ n && n ≤ last && (n - first) % step == 0

/-- **A character with a visible form**; the space counts, and no other separator does. -/
def isPrintable (p : CodePoint) : Bool :=
  p.isIn fun c =>
    let n := c.toNat
    if n < 0x7F then 0x20 ≤ n else !inRanges Table.unprintable n

/-- A letter of the ASCII alphabet. -/
def isAsciiLetter (p : CodePoint) : Bool :=
  p.isIn Char.isAlpha

/-! ### Small laws -/

/-- Every blank of core's narrow class is a blank here. -/
theorem isBlank_of_isWhitespace {c : Char} (h : c.isWhitespace = true) : isBlank c = true := by
  simp only [Char.isWhitespace, Bool.or_eq_true, decide_eq_true_eq] at h
  rcases h with ((rfl | rfl) | rfl) | rfl <;> decide

end SuiteAudit.Text
