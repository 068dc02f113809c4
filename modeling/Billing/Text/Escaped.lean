import Billing.Text.Hex

/-!
# Characters written by their codes

In the name of a site a character can be written by its code: a percent sign and two hexadecimal
digits for each of its bytes (`escape`). Codes of ASCII characters are read (`unescape`).

* `escape_of_plain`: a text of characters that may stand as they are stays as it is.
-/

namespace Billing.Text

/-- The code of a character. -/
def escapeOf (c : Char) : List Char :=
  (String.singleton c).toUTF8.toList.flatMap fun b =>
    '%' :: (hexDigits 2 b.toNat).map Char.toUpper

/-- The text with the characters that are not plain written by their codes. -/
def escape (isPlain : Char → Bool) (s : List Char) : List Char :=
  s.flatMap fun c => if isPlain c then [c] else escapeOf c

/-- The text with the ASCII characters that are written by their codes. Other codes stay as they
are. -/
def unescape : List Char → List Char
  | '%' :: a :: b :: s =>
    match hexNumber? [a, b] with
    | some n => if n < 0x80 then Char.ofNat n :: unescape s else '%' :: a :: b :: unescape s
    | none => '%' :: unescape (a :: b :: s)
  | c :: s => c :: unescape s
  | [] => []

theorem escape_of_plain {isPlain : Char → Bool} {s : List Char} (h : ∀ c ∈ s, isPlain c = true) :
    escape isPlain s = s := by
  induction s with
  | nil => rfl
  | cons c s ih =>
    have hs := ih fun d hd => h d (by simp [hd])
    rw [escape] at hs
    simp [escape, h c (by simp), hs]

end Billing.Text
