import Billing.Number.Digits
import Billing.Pricing.Basic
import Billing.Text.Blank

/-!
# Figures

How amounts, quantities and rates stand on a document: yen with commas (`yen`), a quantity with its
unit (`quantityText`), the label of the tax with its rate in percent (`taxLabel`).
-/

namespace Billing

/-- An amount of money. -/
def yen (amount : Int) : Except Fault String := ("¥ " ++ ·) <$> Number.groupedText amount

/-- A quantity: whole numbers without a point, and commas between the groups of digits. -/
def quantityFigure (q : Binary64) : String :=
  if q.isInteger then
    let n := q.toRat.floor
    Number.signed (n < 0) (Number.group (Number.digits n.natAbs))
  else q.grouped

/-- The quantity of an entry with its unit. Lump sums and percentages count as one. -/
def quantityText (x : Entry) : String :=
  if x.unit = lumpSumUnit ∨ x.unit = "%" then "1 " ++ lumpSumUnit
  else Text.strip (quantityFigure x.quantity ++ " " ++ x.unit)

/-- A rate in percent, without trailing zeros or an exponent. -/
def percent (rate : Decimal) : Except Fault String := do
  let x ← rate.mul (.ofInt 100)
  return x.normalize.plainText

/-- The label of the tax. -/
def taxLabel (rate : Decimal) : Except Fault String := do
  return "消費税 (" ++ (← percent rate) ++ "%)"

end Billing
