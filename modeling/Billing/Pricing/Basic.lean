import Billing.Item.Basic
import Billing.Number.Decimal

/-!
# Prices

Amounts are found in two steps. A standard item costs quantity times unit price; the derived items
are charged on the sum of those amounts and come after the standard ones. Tax is charged on the sum
of all amounts. Every amount is rounded down to a whole yen.

* `priceStandard`, `priceDerived`: the two steps.
* `price`: all entries and their totals.
-/

namespace Billing

/-- An item with its amount. -/
structure Entry extends Item where
  amount : Int
  deriving DecidableEq, Inhabited

namespace Entry

/-- Whether the quantity is left out when the entry is shown. -/
def quantityHidden (x : Entry) : Bool := x.category.isDerived

/-- Whether the unit price is left out when the entry is shown. -/
def unitPriceHidden (x : Entry) : Bool := x.category.isDerived

end Entry

/-- The sum of the entries' amounts. -/
def total (entries : List Entry) : Int := (entries.map (·.amount)).foldl (· + ·) 0

/-- The rates that are charged on the totals. -/
structure Rates where
  tax : Decimal := .finite false 1 (-1)
  welfare : Decimal := .finite false 165 (-3)
  deriving DecidableEq

/-- The product of two decimal numbers, rounded down. -/
def floorProduct (x y : Decimal) : Except Fault Int := x.mul y >>= Decimal.floor

/-- The entry of a standard item. -/
def standardEntry (x : Item) : Except Fault Entry := do
  let amount ← floorProduct (.ofBinary64 x.quantity) (.ofInt x.unitPrice)
  return { x with amount }

/-- The entry of a surcharge on a subtotal. -/
def surchargeEntry (subtotal : Int) (x : Item) : Except Fault Entry := do
  let product ← (Decimal.ofInt subtotal).mul (.ofBinary64 x.quantity)
  let amount ← product.hundredth >>= Decimal.floor
  return { x with unitPrice := 0, amount }

/-- The entry of the welfare levy on a subtotal. -/
def levyEntry (rate : Decimal) (subtotal : Int) (x : Item) : Except Fault Entry := do
  let amount ← floorProduct (.ofInt subtotal) rate
  return { x with unitPrice := amount, quantity := 1, unit := lumpSumUnit, amount }

/-- The entries of the standard items. -/
def priceStandard (items : List Item) : Except Fault (List Entry) :=
  (items.filter (! ·.category.isDerived)).mapM standardEntry

/-- The entry of a derived item. -/
def derivedEntry (rate : Decimal) (subtotal : Int) (x : Item) : Except Fault Entry :=
  match x.category with
  | .welfareLevy => levyEntry rate subtotal x
  | _ => surchargeEntry subtotal x

/-- The entries of the derived items. -/
def priceDerived (rate : Decimal) (subtotal : Int) (items : List Item) :
    Except Fault (List Entry) :=
  (items.filter (·.category.isDerived)).mapM (derivedEntry rate subtotal)

/-- The tax on a subtotal. -/
def tax (rate : Decimal) (subtotal : Int) : Except Fault Int := floorProduct (.ofInt subtotal) rate

/-- Entries with their totals. -/
structure Priced where
  entries : List Entry
  /-- The sum of the standard amounts. -/
  taxableSubtotal : Int
  /-- The sum of all amounts. -/
  subtotal : Int
  tax : Int
  grandTotal : Int
  taxRate : Decimal
  deriving DecidableEq

/-- The entries of the items, standard ones first, with their totals. -/
def price (rates : Rates) (items : List Item) : Except Fault Priced := do
  let standard ← priceStandard items
  let taxableSubtotal := total standard
  let derived ← priceDerived rates.welfare taxableSubtotal items
  let entries := standard ++ derived
  let subtotal := total entries
  let tax ← tax rates.tax subtotal
  return {
    entries, taxableSubtotal, subtotal, tax
    grandTotal := subtotal + tax
    taxRate := rates.tax }

end Billing
