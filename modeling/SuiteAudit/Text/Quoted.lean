import SuiteAudit.Text.Chars

/-!
# Text between quotes

How a message shows a text that a user wrote: between single quotes, or double quotes where the
text holds single ones only. The quote and the backslash are escaped by a backslash, tab, line feed
and carriage return by their letters, and every other code point without a visible form by its
number in two, four or eight hexadecimal digits.
-/

namespace SuiteAudit.Text

/-- The hexadecimal digit of a number below sixteen. -/
def hexDigit (n : Nat) : Char :=
  if n < 10 then Char.ofNat (0x30 + n) else Char.ofNat (0x57 + n)

/-- The last `width` hexadecimal digits of `n`. -/
def hexDigits (n : Nat) : (width : Nat) → List Char
  | 0 => []
  | width + 1 => hexDigits (n / 16) width ++ [hexDigit (n % 16)]

/-- The number of a code point as an escape, in the shortest of the three forms that holds it. -/
def escapeCode (n : Nat) : List Char :=
  if n < 0x100 then '\\' :: 'x' :: hexDigits n 2
  else if n < 0x10000 then '\\' :: 'u' :: hexDigits n 4
  else '\\' :: 'U' :: hexDigits n 8

/-- One code point between two `quote`s. -/
def quotePoint (quote p : CodePoint) : List CodePoint :=
  if p == quote || p == '\\' then ['\\', p]
  else if p == '\t' then ['\\', 't']
  else if p == '\n' then ['\\', 'n']
  else if p == '\r' then ['\\', 'r']
  else if isPrintable p then [p]
  else (escapeCode p.code).map .char

/-- The quote for a text: double where it holds single quotes only. -/
def quoteFor (s : List CodePoint) : CodePoint :=
  if s.contains '\'' && !s.contains '"' then '"' else '\''

/-- **The text between quotes.** -/
def quoted : Text → Text :=
  through fun s =>
    let quote := quoteFor s
    quote :: s.flatMap (quotePoint quote) ++ [quote]

end SuiteAudit.Text
