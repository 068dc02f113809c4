import Billing.Item.Line
import Billing.Pricing.Basic
import Billing.Proofs.Outcome
import Mathlib.Algebra.Ring.Int.Defs

/-!
# The entries of priced items

Pricing puts the standard items before the derived ones and keeps the order of both
(`Pricing.entries_forall₂`). The derived items are charged on the sum of the standard amounts, so
none of them has a part in another one.

* `exists_pricing`: what `price` does, said once.
* `entries_of_price`: the entries of priced items, and what leaving out a derived item changes.
-/

namespace Billing

/-- The items whose amounts are found by themselves. -/
def standardItems (items : List Item) : List Item := items.filter (! ·.category.isDerived)

/-- The items that are charged on the standard amounts. -/
def derivedItems (items : List Item) : List Item := items.filter (·.category.isDerived)

/-- The entry is that of the item: a standard item keeps all it has, a surcharge loses its unit
price, and the levy becomes a lump sum at its amount. -/
structure Item.Yields (x : Item) (e : Entry) : Prop where
  name : e.name = x.name
  quantityText : e.quantityText = x.quantityText
  category : e.category = x.category
  of_standard : x.category = .standard →
    e.quantity = x.quantity ∧ e.unit = x.unit ∧ e.unitPrice = x.unitPrice
  of_surcharge : x.category = .percentageSurcharge →
    e.quantity = x.quantity ∧ e.unit = x.unit ∧ e.unitPrice = 0
  of_levy : x.category = .welfareLevy →
    e.quantity = 1 ∧ e.unit = lumpSumUnit ∧ e.unitPrice = e.amount

/-- How items are priced, with the entries of the standard and of the derived ones. -/
structure Pricing (rates : Rates) (items : List Item) (priced : Priced)
    (standard derived : List Entry) : Prop where
  mapM_standard : (standardItems items).mapM standardEntry = .ok standard
  mapM_derived : (derivedItems items).mapM (derivedEntry rates.welfare (total standard)) =
    .ok derived
  entries : priced.entries = standard ++ derived
  taxableSubtotal : priced.taxableSubtotal = total standard
  subtotal : priced.subtotal = total priced.entries
  tax : tax rates.tax priced.subtotal = .ok priced.tax
  grandTotal : priced.grandTotal = priced.subtotal + priced.tax
  taxRate : priced.taxRate = rates.tax

theorem exists_pricing {rates : Rates} {items : List Item} {priced : Priced}
    (h : price rates items = .ok priced) :
    ∃ standard derived, Pricing rates items priced standard derived := by
  simp only [price, bind_eq_ok, pure_eq_ok] at h
  obtain ⟨standard, hstandard, derived, hderived, tax, htax, rfl⟩ := h
  exact ⟨standard, derived, hstandard, hderived, rfl, rfl, rfl, htax, rfl, rfl⟩

theorem exists_of_price {rates : Rates} {items : List Item} {priced : Priced}
    (h : price rates items = .ok priced) :
    priced.subtotal = total priced.entries ∧ tax rates.tax priced.subtotal = .ok priced.tax ∧
      priced.grandTotal = priced.subtotal + priced.tax ∧ priced.taxRate = rates.tax := by
  obtain ⟨standard, derived, pricing⟩ := exists_pricing h
  exact ⟨pricing.subtotal, pricing.tax, pricing.grandTotal, pricing.taxRate⟩

theorem total_eq_sum (entries : List Entry) : total entries = (entries.map (·.amount)).sum :=
  List.sum_eq_foldl.symm

/-! ## Single entries -/

theorem Item.yields_of_standardEntry {x : Item} {e : Entry} (hx : x.category = .standard)
    (h : standardEntry x = .ok e) : x.Yields e := by
  simp only [standardEntry, bind_eq_ok, pure_eq_ok] at h
  obtain ⟨amount, -, rfl⟩ := h
  constructor <;> simp [hx]

theorem Item.yields_of_derivedEntry {x : Item} {e : Entry} {rate : Decimal} {subtotal : Int}
    (hx : x.category.isDerived) (h : derivedEntry rate subtotal x = .ok e) : x.Yields e := by
  cases hc : x.category with
  | standard => simp [hc, Category.isDerived] at hx
  | percentageSurcharge =>
    simp only [derivedEntry, hc, surchargeEntry, bind_eq_ok, pure_eq_ok] at h
    obtain ⟨_, -, amount, -, rfl⟩ := h
    constructor <;> simp [hc]
  | welfareLevy =>
    simp only [derivedEntry, hc, levyEntry, bind_eq_ok, pure_eq_ok] at h
    obtain ⟨amount, -, rfl⟩ := h
    constructor <;> simp [hc]

/-! ## All entries -/

theorem category_of_mem_standardItems {items : List Item} {x : Item}
    (h : x ∈ standardItems items) : x.category = .standard := by
  have hx := (List.mem_filter.1 h).2
  cases hc : x.category <;> simp [hc, Category.isDerived] at hx ⊢

theorem standardItems_append_cons {x : Item} (hx : x.category = .standard) (xs ys : List Item) :
    standardItems (xs ++ x :: ys) = standardItems xs ++ x :: standardItems ys := by
  simp [standardItems, hx, Category.isDerived]

theorem derivedItems_append_cons {x : Item} (hx : x.category = .standard) (xs ys : List Item) :
    derivedItems (xs ++ x :: ys) = derivedItems (xs ++ ys) := by
  simp [derivedItems, hx, Category.isDerived]

theorem isDerived_of_mem_derivedItems {items : List Item} {x : Item}
    (h : x ∈ derivedItems items) : x.category.isDerived := (List.mem_filter.1 h).2

namespace Pricing

variable {rates : Rates} {items : List Item} {priced : Priced} {standard derived : List Entry}

theorem standard_forall₂ (pricing : Pricing rates items priced standard derived) :
    List.Forall₂ Item.Yields (standardItems items) standard := by
  have hall := (List.forall₂_and_left _ _).2
    ⟨fun _ => category_of_mem_standardItems, mapM_eq_ok.1 pricing.mapM_standard⟩
  exact hall.imp fun _ _ h => Item.yields_of_standardEntry h.1 h.2

theorem derived_forall₂ (pricing : Pricing rates items priced standard derived) :
    List.Forall₂ Item.Yields (derivedItems items) derived := by
  have hall := (List.forall₂_and_left _ _).2
    ⟨fun _ => isDerived_of_mem_derivedItems, mapM_eq_ok.1 pricing.mapM_derived⟩
  exact hall.imp fun _ _ h => Item.yields_of_derivedEntry h.1 h.2

theorem entries_forall₂ (pricing : Pricing rates items priced standard derived) :
    List.Forall₂ Item.Yields (standardItems items ++ derivedItems items) priced.entries := by
  rw [pricing.entries]
  exact List.rel_append pricing.standard_forall₂ pricing.derived_forall₂

/-- Only the entries of standard items are standard. -/
theorem filter_entries (pricing : Pricing rates items priced standard derived) :
    priced.entries.filter (·.category = .standard) = standard := by
  have hstandard : ∀ e ∈ standard, e.category = .standard := by
    intro e he
    obtain ⟨x, hx, yields⟩ := exists_of_mem_right pricing.standard_forall₂ he
    rw [yields.category, category_of_mem_standardItems hx]
  have hderived : ∀ e ∈ derived, e.category ≠ .standard := by
    intro e he hcategory
    obtain ⟨x, hx, yields⟩ := exists_of_mem_right pricing.derived_forall₂ he
    have := isDerived_of_mem_derivedItems hx
    rw [← yields.category, hcategory] at this
    cases this
  rw [pricing.entries, List.filter_append, List.filter_eq_self.2 (by simpa using hstandard),
    List.filter_eq_nil_iff.2 (by simpa using hderived), List.append_nil]

/-- Leaving out a derived item leaves out its entry and nothing else. -/
theorem exists_without {xs ys : List Item} {d : Item} (hd : d.category.isDerived)
    (pricing : Pricing rates (xs ++ d :: ys) priced standard derived) {rest : Priced}
    {standard' derived' : List Entry}
    (pricing' : Pricing rates (xs ++ ys) rest standard' derived') :
    standard' = standard ∧ ∃ before e after, derived = before ++ e :: after ∧
      derived' = before ++ after ∧ d.Yields e ∧ before.length = (derivedItems xs).length := by
  have hstandard : standardItems (xs ++ d :: ys) = standardItems (xs ++ ys) := by
    simp [standardItems, hd]
  have hderived : derivedItems (xs ++ d :: ys) = derivedItems xs ++ d :: derivedItems ys := by
    simp [derivedItems, hd]
  obtain rfl : standard' = standard := by
    have := pricing.mapM_standard
    rw [hstandard, pricing'.mapM_standard] at this
    exact Except.ok.inj this
  refine ⟨rfl, ?_⟩
  have h := pricing.mapM_derived
  have h' := pricing'.mapM_derived
  rw [hderived] at h
  simp only [derivedItems, List.filter_append] at h h'
  simp only [List.mapM_append, List.mapM_cons, bind_eq_ok, pure_eq_ok] at h h'
  obtain ⟨before, hbefore, _, ⟨e, he, after, hafter, rfl⟩, rfl⟩ := h
  obtain ⟨before', hbefore', after', hafter', rfl⟩ := h'
  obtain rfl := Except.ok.inj (hbefore.symm.trans hbefore')
  obtain rfl := Except.ok.inj (hafter.symm.trans hafter')
  exact ⟨before, e, after, rfl, rfl, Item.yields_of_derivedEntry hd he,
    (mapM_eq_ok.1 hbefore).length_eq.symm⟩

end Pricing

/-- The entries of priced items are those of the standard items and then those of the derived ones,
in their order, and the totals are sums of their amounts. A derived item that is left out takes its
own entry with it and changes no other. -/
theorem entries_of_price {rates : Rates} {items : List Item} {priced : Priced}
    (h : price rates items = .ok priced) :
    List.Forall₂ Item.Yields (standardItems items ++ derivedItems items) priced.entries ∧
      priced.taxableSubtotal =
        ((priced.entries.filter (·.category = .standard)).map (·.amount)).sum ∧
      priced.subtotal = (priced.entries.map (·.amount)).sum ∧
      priced.grandTotal = priced.subtotal + priced.tax ∧
      ∀ {xs ys : List Item} {d : Item} {rest : Priced}, items = xs ++ d :: ys →
        d.category.isDerived → price rates (xs ++ ys) = .ok rest →
        rest.taxableSubtotal = priced.taxableSubtotal ∧
        ∃ before e after, priced.entries = before ++ e :: after ∧
          rest.entries = before ++ after ∧ d.Yields e ∧
          before.length = (standardItems (xs ++ ys)).length + (derivedItems xs).length := by
  obtain ⟨standard, derived, pricing⟩ := exists_pricing h
  refine ⟨pricing.entries_forall₂, ?_, ?_, pricing.grandTotal, ?_⟩
  · rw [pricing.filter_entries, pricing.taxableSubtotal, total_eq_sum]
  · rw [pricing.subtotal, total_eq_sum]
  · rintro xs ys d rest rfl hd hrest
    obtain ⟨standard', derived', pricing'⟩ := exists_pricing hrest
    obtain ⟨rfl, before, e, after, rfl, rfl, yields, hlength⟩ :=
      pricing.exists_without hd pricing'
    refine ⟨by rw [pricing.taxableSubtotal, pricing'.taxableSubtotal], standard' ++ before, e,
      after, by simp [pricing.entries], by simp [pricing'.entries], yields, ?_⟩
    rw [List.length_append, hlength, pricing'.standard_forall₂.length_eq]

/-- Standard items, and derived ones among them. -/
def specimenDesign : Item :=
  { name := "設計", quantityText := "2日", quantity := 2, unit := "日", unitPrice := 15000 }

def specimenFreight : Item :=
  { name := "運搬", quantityText := "0.3t", quantity := .ofRat (3 / 10), unit := "t",
    unitPrice := 1234 }

def specimenOverheads : Item :=
  { name := surchargeName, quantityText := "7.5%", quantity := .ofRat (15 / 2), unit := "%",
    unitPrice := 0, category := .percentageSurcharge }

def specimenLevy : Item :=
  { name := levyName, quantityText := "0", quantity := 1, unit := lumpSumUnit, unitPrice := 0,
    category := .welfareLevy }

theorem entries_of_specimen :
    ∃ priced rest,
      price {} ([specimenDesign] ++ specimenOverheads :: [specimenFreight, specimenLevy]) =
        .ok priced ∧
      specimenOverheads.category.isDerived ∧
      price {} ([specimenDesign] ++ [specimenFreight, specimenLevy]) = .ok rest ∧
      List.Forall₂ Item.Yields
        [specimenDesign, specimenFreight, specimenOverheads, specimenLevy] priced.entries ∧
      priced.taxableSubtotal =
        ((priced.entries.filter (·.category = .standard)).map (·.amount)).sum ∧
      priced.subtotal = (priced.entries.map (·.amount)).sum ∧
      priced.grandTotal = priced.subtotal + priced.tax ∧
      rest.taxableSubtotal = priced.taxableSubtotal ∧
      ∃ before e after, priced.entries = before ++ e :: after ∧ rest.entries = before ++ after ∧
        specimenOverheads.Yields e ∧ before.length = 2 := by
  obtain ⟨priced, hpriced⟩ := exists_of_isOk (x := price {}
    ([specimenDesign] ++ specimenOverheads :: [specimenFreight, specimenLevy])) (by decide +kernel)
  obtain ⟨rest, hrest⟩ := exists_of_isOk
    (x := price {} ([specimenDesign] ++ [specimenFreight, specimenLevy])) (by decide +kernel)
  obtain ⟨hentries, htaxable, hsubtotal, htotal, hwithout⟩ := entries_of_price hpriced
  exact ⟨priced, rest, hpriced, rfl, hrest, hentries, htaxable, hsubtotal, htotal,
    hwithout rfl rfl hrest⟩

end Billing
