import SuiteAudit.Text.Quoted

/-!
# Bytes of a text

UTF-8 has bytes for characters only. `Text.bytes` gives halves of surrogate pairs three bytes each
like their neighbours, which tells all texts apart; `Text.encode` refuses them.
-/

namespace SuiteAudit

/-- The UTF-8 bytes of a code point; half of a surrogate pair takes three like its neighbours. -/
def CodePoint.bytes (p : CodePoint) : List UInt8 :=
  let n := p.code
  if n < 0x80 then [n.toUInt8]
  else if n < 0x800 then [(0xC0 + n / 0x40).toUInt8, (0x80 + n % 0x40).toUInt8]
  else if n < 0x10000 then
    [(0xE0 + n / 0x1000).toUInt8, (0x80 + n / 0x40 % 0x40).toUInt8, (0x80 + n % 0x40).toUInt8]
  else
    [(0xF0 + n / 0x40000).toUInt8, (0x80 + n / 0x1000 % 0x40).toUInt8,
      (0x80 + n / 0x40 % 0x40).toUInt8, (0x80 + n % 0x40).toUInt8]

/-- **Halves of pairs where bytes are wanted**: the first half, where it stands, counted from zero,
and how many halves stand there in a row. -/
structure NotEncodable where
  first : Surrogate
  position : Nat
  count : Nat
deriving Repr, DecidableEq

/-- What is said of halves of pairs where bytes are wanted. -/
def NotEncodable.message (e : NotEncodable) : Text :=
  let place : Text :=
    if e.count == 1 then
      "character '" ++ String.ofList (Text.escapeCode e.first.code) ++ "' in position " ++
        toString e.position
    else
      "characters in position " ++ toString e.position ++ "-" ++
        toString (e.position + e.count - 1)
  "'utf-8' codec can't encode " ++ place ++ ": surrogates not allowed"

namespace Text

/-- **The bytes of a text**, halves of pairs included. -/
def bytes (t : Text) : List UInt8 :=
  t.points.flatMap CodePoint.bytes

/-- The first halves of pairs from a position on. -/
def halvesFrom? (position : Nat) : List CodePoint → Option NotEncodable
  | [] => none
  | .char _ :: rest => halvesFrom? (position + 1) rest
  | .surrogate first :: rest =>
    some { first, position, count := 1 + (rest.takeWhile (·.char?.isNone)).length }

/-- **The UTF-8 bytes of a text**, unless it holds halves of pairs. -/
def encode (t : Text) : Except NotEncodable (List UInt8) :=
  match halvesFrom? 0 t.points with
  | some e => .error e
  | none => .ok t.bytes

/-- Every string has UTF-8 bytes. -/
theorem encode_ofString (s : String) : (ofString s).encode = .ok (ofString s).bytes := by
  have none (n : Nat) (cs : List Char) : halvesFrom? n (cs.map .char) = none := by
    induction cs generalizing n with
    | nil => rfl
    | cons c rest ih => exact ih (n + 1)
  simp [encode, ofString, none]

end Text

end SuiteAudit
