import Billing.Number.Digits
import Billing.Text.Half
import Billing.Text.Hex
import Billing.Text.Printable

/-!
# Quoted texts

A text shown between quotes, so that its ends and its unprintable characters can be seen (`quoted`):
single quotes unless the text holds some and no double ones, and a backslash before what would be
misread. Halves of characters are shown by their codes.
-/

namespace Billing.Text

/-- The quote that stands around a text. -/
def quoteFor (s : List Char) : Char := if '\'' ∈ s ∧ '"' ∉ s then '"' else '\''

/-- The form of a code without a printable character. -/
def escapeCode (n : Nat) : List Char :=
  if n < 0x100 then '\\' :: 'x' :: hexDigits 2 n
  else if n < 0x10000 then '\\' :: 'u' :: hexDigits 4 n
  else '\\' :: 'U' :: hexDigits 8 n

/-- The form of a character between quotes. -/
def escapeQuoted (quote c : Char) : List Char :=
  if c = quote ∨ c = '\\' then ['\\', c]
  else if c = '\n' then ['\\', 'n']
  else if c = '\r' then ['\\', 'r']
  else if c = '\t' then ['\\', 't']
  else if isPrintable c then [c]
  else escapeCode c.toNat

/-- The form of a point between quotes. -/
def escapePoint (quote : Char) : Point → List Char
  | .char c => escapeQuoted quote c
  | .half u => escapeCode u

/-- The text between quotes. -/
def quoted (s : Raw) : String :=
  let q := quoteFor s.characters
  String.ofList (q :: s.points.flatMap (escapePoint q) ++ [q])

end Billing.Text
