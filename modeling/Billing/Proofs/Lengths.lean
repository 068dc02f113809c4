import Billing.Canvas.Wrap
import Billing.Layout.Params
import Mathlib.Algebra.Order.Ring.Rat
import Mathlib.Data.Rat.Floor
import Mathlib.Tactic.NormNum

/-!
# Lengths

No length is below itself (`StrictCoordinate`), neither a binary64 number nor a rational one. Where
lengths are rational numbers, their arithmetic is that of the rational numbers, and a division that
rounds down fails for the divisor zero only.

* `LayoutParams.lineHeight`: the height of a line of a name.
* `LayoutParams.IsRoomy`: measures that have room for a row.
-/

namespace Billing

/-- Lengths of which none is below itself, so that nothing at the top of a page is moved again. -/
class StrictCoordinate (α : Type) [Coordinate α] : Prop where
  lt_self (x : α) : Coordinate.lt x x = false

namespace Coordinate

@[simp] theorem pt_rat (q : Rat) : (pt q : Rat) = q := rfl

@[simp] theorem ofCount_rat (n : Nat) : (ofCount n : Rat) = n := rfl

@[simp] theorem lt_rat (x y : Rat) : lt x y = decide (x < y) := rfl

@[simp] theorem le_rat (x y : Rat) : le x y = decide (x ≤ y) := rfl

@[simp] theorem greater_rat (x y : Rat) : greater x y = max x y := by
  simp only [greater, lt_rat, decide_eq_true_eq, max_def_lt]

@[simp] theorem smaller_rat (x y : Rat) : smaller x y = min x y := by
  simp only [smaller, lt_rat, decide_eq_true_eq, min_comm x y, min_def_lt]

theorem floorQuotient_rat {x y : Rat} (hy : y ≠ 0) : floorQuotient x y = .ok ⌊x / y⌋ :=
  if_neg hy

instance : StrictCoordinate Rat where
  lt_self x := by simp

instance : StrictCoordinate Binary64 where
  lt_self x := by
    cases x with
    | finite => simp [lt, Binary64.lt]
    | infinity s => cases s <;> rfl
    | nan => rfl

end Coordinate

/-- The height of a line of a name. -/
def LayoutParams.lineHeight (p : LayoutParams Rat) : Rat := p.fontSize * (6 / 5) + p.lineGap

theorem LayoutParams.linesHeight_eq (p : LayoutParams Rat) (count : Nat) :
    Metrics.linesHeight count p.fontSize p.lineGap = count * p.lineHeight := rfl

theorem LayoutParams.linesHeight_one (p : LayoutParams Rat) :
    Metrics.linesHeight 1 p.fontSize p.lineGap = p.lineHeight := by
  rw [linesHeight_eq, Nat.cast_one, one_mul]

/-- Measures that have room for a row of one line below the header band of a later page. -/
structure LayoutParams.IsRoomy (p : LayoutParams Rat) : Prop where
  fontSize_pos : 0 < p.fontSize
  lineHeight_pos : 0 < p.lineHeight
  le_rowPadding : 8 ≤ p.rowPadding
  line_le_minRowHeight : p.rowPadding + p.lineHeight ≤ p.minRowHeight
  band_le_rowBottom : p.pageTop + p.headerHeight + p.minRowHeight ≤ p.rowBottom

theorem LayoutParams.standard_isRoomy : (standard : LayoutParams Rat).IsRoomy := by
  constructor <;> norm_num [standard, lineHeight]

theorem LayoutParams.rowHeight_rat (p : LayoutParams Rat) (measured : Rat) :
    p.rowHeight measured = max p.minRowHeight (measured + p.rowPadding) :=
  Coordinate.greater_rat ..

theorem Cursor.fits_rat (c : Cursor Rat) (height bottom : Rat) :
    c.fits height bottom ↔ c.y + height ≤ bottom := by
  simp [Cursor.fits]

end Billing
