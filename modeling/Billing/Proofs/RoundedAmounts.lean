import Billing.Proofs.Entries
import Billing.Proofs.Number.Printing
import Billing.Proofs.Number.Significant
import Billing.Proofs.Sheets

/-!
# Amounts of any size

Numbers have any number of digits, products have 28. So the amount of an item is found from its
exact product (`Item.product`), rounded once to 28 significant digits and then down to a whole yen;
for products of at most 28 digits that is the exact product rounded down.

* `amount_of_standardEntry`, `amount_of_derivedEntry`: the amount of a single item.
* `amounts_of_price`: all amounts and the tax.
-/

namespace Billing

open Decimal (finite precision minPlace maxExponent nearest)

/-! ## Products rounded down -/

theorem exists_of_floorProduct {x y : Decimal} {n : Int} (h : floorProduct x y = .ok n) :
    (∃ s c e, x = finite s c e) ∧ ∃ s c e, y = finite s c e := by
  obtain ⟨z, hmul, hfloor⟩ := bind_eq_ok.1 h
  obtain ⟨s, c, e, rfl⟩ := Decimal.exists_of_floor hfloor
  exact Decimal.exists_of_mul_eq_finite hmul

theorem floorProduct_eq_floor_nearest {s t : Bool} {c d : Nat} {e f n : Int}
    (he : minPlace ≤ e + f) (h : floorProduct (finite s c e) (finite t d f) = .ok n) :
    n = ⌊nearest ((finite s c e).toRat * (finite t d f).toRat)⌋ := by
  obtain ⟨z, hmul, hfloor⟩ := bind_eq_ok.1 h
  rw [Decimal.floor_eq hfloor, Decimal.toRat_of_mul_eq_nearest he hmul]

/-- A product taken as a percentage and rounded down. -/
theorem floor_hundredth_eq {s t : Bool} {c d : Nat} {e f n : Int} {z : Decimal}
    (he : minPlace + 2 ≤ e + f) (hmul : (finite s c e).mul (finite t d f) = .ok z)
    (h : z.hundredth >>= Decimal.floor = .ok n) :
    n = ⌊nearest ((finite s c e).toRat * (finite t d f).toRat) / 100⌋ := by
  obtain ⟨y, hhundredth, hfloor⟩ := bind_eq_ok.1 h
  obtain ⟨c', e', rfl, hc, he'⟩ := Decimal.eq_finite_of_rounded (by omega) hmul
  have hlimits : minPlace = -1000026 ∧ maxExponent = 999999 := ⟨rfl, rfl⟩
  rw [Decimal.floor_eq hfloor, Decimal.toRat_hundredth hc (by omega) hhundredth,
    Decimal.toRat_of_mul_eq_nearest (by omega) hmul]

/-! ## Single items -/

theorem Decimal.exists_ofBinary64 {q : Binary64} {s : Bool} {c : Nat} {e : Int}
    (h : ofBinary64 q = finite s c e) :
    (∃ t x, q = .finite t x) ∧ -1074 ≤ e ∧ e ≤ 400 ∧ c < 10 ^ 1474 := by
  cases q with
  | finite t x =>
    rw [ofBinary64_finite] at h
    obtain ⟨rfl, rfl, rfl⟩ := Decimal.finite.inj h
    exact ⟨⟨_, x, rfl⟩, x.significant_bounds⟩
  | infinity | nan => cases h

namespace Item

/-- The exact product that the amount of an item is found from: its quantity, given as `q`, times
its unit price, or times the standard amounts, or the standard amounts times the levy's rate. -/
def product (subtotal : Int) (q : Rat) (x : Item) : Rat :=
  match x.category with
  | .standard => q * x.unitPrice
  | .percentageSurcharge => subtotal * q
  | .welfareLevy => subtotal * (165 / 1000)

/-- The amount that a product makes: a surcharge takes a percentage of it. -/
def amountOf (x : Item) (product : Rat) : Int :=
  match x.category with
  | .percentageSurcharge => ⌊product / 100⌋
  | _ => ⌊product⌋

/-- The value of the quantity's shortest digits. -/
def quantityValue (x : Item) : Rat := (Decimal.ofBinary64 x.quantity).toRat

variable {x : Item} {e : Entry} {subtotal : Int}

theorem amount_of_standardEntry (subtotal : Int) (hx : x.category = .standard)
    (h : standardEntry x = .ok e) :
    (∃ s m, x.quantity = .finite s m) ∧
      e.amount = x.amountOf (nearest (x.product subtotal x.quantityValue)) := by
  simp only [standardEntry, bind_eq_ok, pure_eq_ok] at h
  obtain ⟨amount, hamount, rfl⟩ := h
  obtain ⟨⟨s, c, p, hq⟩, -⟩ := exists_of_floorProduct hamount
  obtain ⟨hfinite, hlow, -⟩ := Decimal.exists_ofBinary64 hq
  have hlimit : minPlace = -1000026 := rfl
  rw [hq] at hamount
  have hvalue : amount = ⌊nearest ((finite s c p).toRat * (Decimal.ofInt x.unitPrice).toRat)⌋ :=
    floorProduct_eq_floor_nearest (by omega) hamount
  refine ⟨hfinite, ?_⟩
  simp only [amountOf, product, hx, quantityValue, hq, hvalue, Decimal.toRat_ofInt]

theorem amount_of_surchargeEntry (hx : x.category = .percentageSurcharge)
    (h : surchargeEntry subtotal x = .ok e) :
    (∃ s m, x.quantity = .finite s m) ∧
      e.amount = x.amountOf (nearest (x.product subtotal x.quantityValue)) := by
  simp only [surchargeEntry, bind_eq_ok, pure_eq_ok] at h
  obtain ⟨z, hmul, amount, hamount, rfl⟩ := h
  obtain ⟨y, hhundredth, hfloor⟩ := hamount
  have hlimit : minPlace = -1000026 := rfl
  obtain ⟨_, _, _, hy⟩ := Decimal.exists_of_floor hfloor
  obtain ⟨_, _, _, hz⟩ := Decimal.exists_of_hundredth_eq_finite (hy ▸ hhundredth)
  obtain ⟨-, s, c, p, hq⟩ := Decimal.exists_of_mul_eq_finite (hz ▸ hmul)
  obtain ⟨hfinite, hlow, -⟩ := Decimal.exists_ofBinary64 hq
  rw [hq] at hmul
  have hvalue : amount =
      ⌊nearest ((Decimal.ofInt subtotal).toRat * (finite s c p).toRat) / 100⌋ :=
    floor_hundredth_eq (by omega) hmul (bind_eq_ok.2 ⟨y, hhundredth, hfloor⟩)
  refine ⟨hfinite, ?_⟩
  simp only [amountOf, product, hx, quantityValue, hq, hvalue, Decimal.toRat_ofInt]

theorem amount_of_levyEntry (hx : x.category = .welfareLevy)
    (h : levyEntry ({} : Rates).welfare subtotal x = .ok e) (q : Rat) :
    e.amount = x.amountOf (nearest (x.product subtotal q)) := by
  simp only [levyEntry, bind_eq_ok, pure_eq_ok] at h
  obtain ⟨amount, hamount, rfl⟩ := h
  have hlimit : minPlace = -1000026 := rfl
  have hvalue : amount =
      ⌊nearest ((Decimal.ofInt subtotal).toRat * (finite false 165 (-3)).toRat)⌋ :=
    floorProduct_eq_floor_nearest (by omega) hamount
  have hrate : (finite false 165 (-3)).toRat = 165 / 1000 := by norm_num [Decimal.toRat]
  rw [hvalue, Decimal.toRat_ofInt, hrate]
  simp only [amountOf, product, hx]

/-- The text of a quantity is read as a decimal number, of the value of its shortest digits if the
quantity is finite. -/
theorem exists_read?_quantity (x : Item) :
    ∃ q, Decimal.read? x.quantity.text.toList = some q ∧
      ∀ s m, x.quantity = .finite s m → q.toRat = x.quantityValue := by
  cases hq : x.quantity with
  | finite s m =>
    obtain ⟨q, hread, hvalue⟩ := Decimal.exists_toRat_read?_text s m
    refine ⟨q, hread, fun _ _ _ => ?_⟩
    rw [hvalue, quantityValue, hq]
  | infinity s =>
    cases s
    · exact ⟨.infinity false, by decide, fun _ _ h => by cases h⟩
    · exact ⟨.infinity true, by decide, fun _ _ h => by cases h⟩
  | nan => exact ⟨.nan false false 0, by decide, fun _ _ h => by cases h⟩

/-- The amount of an entry is found from the exact product of its item, changed by `round`. The
quantity goes through its text. -/
def IsCharged (x : Item) (round : Rat → Rat) (subtotal : Int) (e : Entry) : Prop :=
  ∃ q, Decimal.read? x.quantity.text.toList = some q ∧
    e.amount = x.amountOf (round (x.product subtotal q.toRat))

/-- For a product of at most 28 digits, zeros at its end apart, nothing but the floor changes it. -/
theorem IsCharged.of_short (h : x.IsCharged nearest subtotal e)
    (hshort : ∀ q, Decimal.read? x.quantity.text.toList = some q →
      ∃ m k : Int, x.product subtotal q.toRat = m * 10 ^ k ∧ m.natAbs < 10 ^ precision) :
    x.IsCharged id subtotal e := by
  obtain ⟨q, hread, hamount⟩ := h
  obtain ⟨m, k, hproduct, hm⟩ := hshort q hread
  rw [hproduct, Decimal.nearest_eq_self hm, ← hproduct] at hamount
  exact ⟨q, hread, hamount⟩

theorem isCharged_of_standardEntry (hx : x.category = .standard) (h : standardEntry x = .ok e) :
    x.IsCharged nearest subtotal e := by
  obtain ⟨⟨s, m, hq⟩, hamount⟩ := amount_of_standardEntry subtotal hx h
  obtain ⟨q, hread, hvalue⟩ := x.exists_read?_quantity
  exact ⟨q, hread, by rw [hvalue s m hq, hamount]⟩

theorem isCharged_of_derivedEntry (hx : x.category.isDerived)
    (h : derivedEntry ({} : Rates).welfare subtotal x = .ok e) :
    x.IsCharged nearest subtotal e := by
  obtain ⟨q, hread, hvalue⟩ := x.exists_read?_quantity
  cases hc : x.category with
  | standard => simp [hc, Category.isDerived] at hx
  | percentageSurcharge =>
    simp only [derivedEntry, hc] at h
    obtain ⟨⟨s, m, hq⟩, hamount⟩ := amount_of_surchargeEntry hc h
    exact ⟨q, hread, by rw [hvalue s m hq, hamount]⟩
  | welfareLevy =>
    simp only [derivedEntry, hc] at h
    exact ⟨q, hread, amount_of_levyEntry hc h _⟩

end Item

/-! ## All items -/

/-- Every amount is found from the exact product of the numbers that the quantity's text and the
price write, or of the standard amounts and a percentage, rounded once to 28 significant digits and
then down; so is the tax. -/
theorem amounts_of_price {items : List Item} {priced : Priced}
    (h : price {} items = .ok priced) :
    List.Forall₂ (fun x e => x.IsCharged nearest priced.taxableSubtotal e)
      (standardItems items ++ derivedItems items) priced.entries ∧
    priced.tax = ⌊nearest (priced.subtotal * (1 / 10))⌋ ∧
    priced.grandTotal = priced.subtotal + priced.tax := by
  obtain ⟨standard, derived, pricing⟩ := exists_pricing h
  refine ⟨?_, ?_, pricing.grandTotal⟩
  · have hstandard := (List.forall₂_and_left _ _).2
      ⟨fun _ => category_of_mem_standardItems, mapM_eq_ok.1 pricing.mapM_standard⟩
    have hderived := (List.forall₂_and_left _ _).2
      ⟨fun _ => isDerived_of_mem_derivedItems, mapM_eq_ok.1 pricing.mapM_derived⟩
    rw [pricing.entries, pricing.taxableSubtotal]
    exact List.rel_append (hstandard.imp fun _ _ h => Item.isCharged_of_standardEntry h.1 h.2)
      (hderived.imp fun _ _ h => Item.isCharged_of_derivedEntry h.1 h.2)
  · have hlimit : minPlace = -1000026 := rfl
    have hrate : (finite false 1 (-1)).toRat = 1 / 10 := by norm_num [Decimal.toRat]
    have hvalue : priced.tax =
        ⌊nearest ((Decimal.ofInt priced.subtotal).toRat * (finite false 1 (-1)).toRat)⌋ :=
      floorProduct_eq_floor_nearest (by omega) pricing.tax
    rw [hvalue, Decimal.toRat_ofInt, hrate]

/-- The first product has 29 digits, and a tenth of the sum 30. -/
def largeSheet : String := "A, 3, 33333333333333333333333333333\nB, 1, 95"

def largeItems : List Item :=
  [{ name := "A", quantityText := "3", quantity := 3, unit := "",
     unitPrice := 33333333333333333333333333333 },
    { name := "B", quantityText := "1", quantity := 1, unit := "", unitPrice := 95 }]

theorem ofSheet_largeSheet : Item.ofSheet largeSheet = .ok largeItems := by
  have hkept : keptLines largeSheet = ["A, 3, 33333333333333333333333333333", "B, 1, 95"] := by cbv
  have hfirst : lineFields "A, 3, 33333333333333333333333333333" =
      [['A'], ['3'], "33333333333333333333333333333".toList] := by cbv
  have hsecond : lineFields "B, 1, 95" = [['B'], ['1'], ['9', '5']] := by cbv
  rw [Item.ofSheet_eq_ok, hkept]
  · simp only [List.map_cons, List.map_nil, enteredItem, quantityField, priceDigits, lineField,
      hfirst, hsecond]
    decide +kernel
  · rw [hkept]
    decide_cbv

/-- The prices of the items: the first amount and the tax are one too large. -/
def largePriced : Priced where
  entries :=
    [{ name := "A", quantityText := "3", quantity := 3, unit := "",
       unitPrice := 33333333333333333333333333333, amount := 100000000000000000000000000000 },
      { name := "B", quantityText := "1", quantity := 1, unit := "", unitPrice := 95,
        amount := 95 }]
  taxableSubtotal := 100000000000000000000000000095
  subtotal := 100000000000000000000000000095
  tax := 10000000000000000000000000010
  grandTotal := 110000000000000000000000000105
  taxRate := .finite false 1 (-1)

theorem price_largeItems : price {} largeItems = .ok largePriced := by decide +kernel

theorem amounts_of_largePriced :
    price {} largeItems = .ok largePriced ∧
      List.Forall₂ (fun x e => x.IsCharged nearest largePriced.taxableSubtotal e)
        largeItems largePriced.entries ∧
      largePriced.tax = ⌊nearest (largePriced.subtotal * (1 / 10))⌋ ∧
      largePriced.grandTotal = largePriced.subtotal + largePriced.tax :=
  ⟨price_largeItems, amounts_of_price price_largeItems⟩

/-- Amounts and taxes are not the exact ones rounded down. -/
theorem exists_inexact_largeSheet :
    ∃ items priced, Item.ofSheet largeSheet = .ok items ∧ price {} items = .ok priced ∧
      ¬ List.Forall₂ (fun x e => x.IsCharged id priced.taxableSubtotal e)
        (standardItems items ++ derivedItems items) priced.entries ∧
      priced.tax ≠ ⌊(priced.subtotal * (1 / 10) : Rat)⌋ := by
  refine ⟨largeItems, largePriced, ofSheet_largeSheet, price_largeItems, ?_, ?_⟩
  · intro hall
    have hitems : standardItems largeItems ++ derivedItems largeItems = largeItems := by decide
    rw [hitems] at hall
    obtain ⟨⟨q, hread, hamount⟩, -⟩ := List.forall₂_cons.1 hall
    have hthree : Decimal.read? (3 : Binary64).text.toList = some (.finite false 30 (-1)) := by
      decide +kernel
    obtain rfl := Option.some.inj (hthree.symm.trans hread)
    norm_num [Item.amountOf, Item.product, Decimal.toRat] at hamount
  · norm_num [largePriced]

end Billing
