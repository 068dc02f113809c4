import Billing.Number.Binary64

/-!
# Items

An item is one position of an estimate as it was entered: a name, a quantity with its unit, a unit
price, and the category that decides how its amount is found.
-/

namespace Billing

/-- How the amount of an item is found. -/
inductive Category where
  /-- Quantity times unit price. -/
  | standard
  /-- A percentage of the standard items' total; the quantity is the percentage. -/
  | percentageSurcharge
  /-- The statutory welfare levy on the standard items' total. -/
  | welfareLevy
  deriving DecidableEq, Repr, Inhabited

namespace Category

/-- The identifier of the category. -/
def name : Category → String
  | standard => "standard"
  | percentageSurcharge => "percentage_surcharge"
  | welfareLevy => "welfare_levy"

/-- The category with an identifier. -/
def ofName? (s : String) : Option Category :=
  [standard, percentageSurcharge, welfareLevy].find? (·.name = s)

/-- Whether the amount is derived from the standard items' total. -/
def isDerived : Category → Bool
  | standard => false
  | _ => true

theorem ofName?_name (c : Category) : ofName? c.name = some c := by cases c <;> decide

end Category

/-- The unit of a lump sum and of the levy. -/
def lumpSumUnit : String := "式"

/-- An item as it was entered, without an amount. -/
structure Item where
  name : String
  /-- The quantity field as it was entered. -/
  quantityText : String
  quantity : Binary64
  unit : String
  unitPrice : Int
  category : Category := .standard
  deriving DecidableEq, Inhabited

end Billing
