import Billing.Item.Basic
import Billing.Item.Quantity
import Billing.Text.Lines
import Billing.Number.Digits

/-!
# Item lines

One line of input holds the name, the quantity and the unit price of an item, divided by runs of
commas or tabs (`fields`). `Item.ofLine?` reads it: a name that speaks of the statutory welfare
levy or, with a percentage, of overheads makes the item a derived one.
-/

namespace Billing

/-- The characters that divide fields. -/
def isSeparator (c : Char) : Bool := c == ',' || c == '，' || c == '\t'

/-- The pieces of a line between runs of separators. -/
def fields (s : List Char) : List (List Char) :=
  match _hs : s.dropWhile (! isSeparator ·) with
  | [] => [s]
  | _ :: rest => s.takeWhile (! isSeparator ·) :: fields (rest.dropWhile isSeparator)
termination_by s.length
decreasing_by
  have h := (List.dropWhile_sublist (p := (! isSeparator ·)) (l := s)).length_le
  have h' := (List.dropWhile_sublist (p := isSeparator) (l := rest)).length_le
  rw [_hs] at h
  simp at h
  omega

/-- The name of the statutory welfare levy. -/
def levyName : String := "法定福利費"

/-- The name of overheads. -/
def surchargeName : String := "諸経費"

/-- The unit price that a field writes: the digits at its start. -/
def readUnitPrice (s : List Char) : Except Fault Nat :=
  Number.readDigits (s.takeWhile Text.isDigit)

/-- Whether a quantity field writes a percentage: it ends in a percent sign or is a bare number. -/
def isPercentage (s : List Char) : Bool := s.getLast? = some '%' || isBareNumber s

/-- The percentage that a quantity field writes. -/
def readPercentage (s : List Char) : Binary64 :=
  (readQuantity (Text.trim (Text.dropRightWhile (· == '%') s))).1

namespace Item

/-- The item with this name, quantity field and unit price. -/
def ofFields (name quantity : List Char) (unitPrice : Nat) : Item :=
  if Text.contains levyName.toList name then
    { name := levyName, quantityText := String.ofList quantity, quantity := 1,
      unit := lumpSumUnit, unitPrice := 0, category := .welfareLevy }
  else if Text.contains surchargeName.toList name && isPercentage quantity then
    { name := surchargeName, quantityText := String.ofList quantity,
      quantity := readPercentage quantity, unit := "%", unitPrice := unitPrice,
      category := .percentageSurcharge }
  else
    let (amount, unit) := readQuantity quantity
    { name := String.ofList name, quantityText := String.ofList quantity, quantity := amount,
      unit := unit, unitPrice := unitPrice }

/-- The item that a line writes, none if its first field is blank. A missing quantity is zero, and
so is a unit price that does not start with a digit. -/
def ofLine? (line : String) : Except Fault (Option Item) :=
  match (fields line.toList).map Text.trim with
  | [] => .ok none
  | [] :: _ => .ok none
  | name :: rest => do
    let quantity := match rest with
      | [] | [] :: _ => ['0']
      | q :: _ => q
    let unitPrice ← match rest with
      | _ :: p :: _ => readUnitPrice p
      | _ => .ok 0
    return some (ofFields name quantity unitPrice)

end Item

end Billing
