import Billing.Item.Basic
import Billing.Number.Numeral

/-!
# Quantity fields

A quantity field is a number followed by a unit, as in `100m`, or the word for a lump sum. What is
neither counts as the quantity zero without a unit.

* `leadingNumber?`: the longest number at the start of a text.
* `readQuantity`: the quantity and the unit of a field.
-/

namespace Billing

open Text (isDigit)

/-- The number at the start of a text, as long as possible, and the rest: digits, then perhaps a
point and more digits; or a point and at least one digit. -/
def leadingNumber? (s : List Char) : Option (Numeral × List Char) :=
  let whole := s.takeWhile isDigit
  let rest := s.dropWhile isDigit
  let (fraction, after) := Numeral.readFraction rest
  if whole = [] ∧ fraction = [] then none
  else some (⟨false, whole, fraction, 0⟩, after)

/-- Whether the whole text is a number. -/
def isBareNumber (s : List Char) : Bool :=
  match leadingNumber? s with
  | some (_, []) => true
  | _ => false

/-- The field that stands for one lump sum. -/
def lumpSum : List Char := "一式".toList

/-- The quantity and the unit that a field writes. -/
def readQuantity (s : List Char) : Binary64 × String :=
  if s = lumpSum then (1, lumpSumUnit)
  else
    match leadingNumber? s with
    | some (n, rest) =>
      if '\n' ∈ rest then (0, "") else (n.toBinary64, String.ofList (Text.trim rest))
    | none => (0, "")

end Billing
