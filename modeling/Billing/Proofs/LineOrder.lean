import Billing.Proofs.Entries
import Billing.Proofs.Sheets
import Mathlib.Algebra.BigOperators.Group.List.Basic
import Mathlib.Data.List.Perm.Basic
import Mathlib.Tactic.Choose

/-!
# The order of the lines

The lines of a sheet may be put in any order: the totals stay the same, and every line keeps its
entry. Only the order of the entries follows that of the lines, with those of standard items before
the others.

* `exists_price_of_perm`: the prices of items in another order.
* `Pricing.exists_entry`: the entries of the items, each found from its item alone once the sum of
  the standard amounts is known.
* `price_of_permuted_lines`: the prices of a sheet with its lines in another order.
-/

namespace Billing

/-- The entry of an item, of whichever category, on the sum of the standard amounts. -/
def itemEntry (rate : Decimal) (subtotal : Int) (x : Item) : Except Fault Entry :=
  if x.category.isDerived then derivedEntry rate subtotal x else standardEntry x

/-- The entry of a line, if the line enters an item. -/
def lineEntry (rate : Decimal) (subtotal : Int) (line : String) : Except Fault (Option Entry) :=
  Item.ofSheetLine? line >>= Option.mapM (itemEntry rate subtotal)

/-- The entries of standard items, then the others, both in their order. -/
def standardFirst (entries : List Entry) : List Entry :=
  entries.filter (! ·.category.isDerived) ++ entries.filter (·.category.isDerived)

theorem total_eq_of_perm {entries entries' : List Entry} (h : entries.Perm entries') :
    total entries = total entries' := by
  rw [total_eq_sum, total_eq_sum]
  exact (h.map _).sum_eq

/-! ## Items -/

theorem exists_mapM_of_perm {β γ : Type} {f : β → Except Fault γ} {xs xs' : List β} {ys : List γ}
    (hperm : xs.Perm xs') (h : xs.mapM f = .ok ys) : ∃ ys', xs'.mapM f = .ok ys' ∧ ys'.Perm ys := by
  obtain ⟨ys', hys', hperm'⟩ := List.perm_comp_forall₂ hperm.symm (mapM_eq_ok.1 h)
  exact ⟨ys', mapM_eq_ok.2 hys', hperm'⟩

section

variable {rates : Rates} {items items' : List Item} {priced : Priced}
  {standard derived : List Entry}

theorem Pricing.price_eq (pricing : Pricing rates items priced standard derived) :
    price rates items = .ok priced := by
  obtain ⟨hstandard, hderived, hentries, htaxable, hsubtotal, htax, htotal, hrate⟩ := pricing
  obtain ⟨entries, taxable, subtotal, tax, grandTotal, rate⟩ := priced
  dsimp only at *
  subst hrate hentries htaxable hsubtotal htotal
  simp only [price, bind_eq_ok, pure_eq_ok]
  exact ⟨standard, hstandard, derived, hderived, tax, htax, rfl⟩

/-- Items in another order have the same totals, and their entries in another order. -/
theorem exists_price_of_perm (hperm : items.Perm items') (h : price rates items = .ok priced) :
    ∃ priced', price rates items' = .ok priced' ∧ priced'.entries.Perm priced.entries ∧
      priced'.taxableSubtotal = priced.taxableSubtotal ∧ priced'.subtotal = priced.subtotal ∧
      priced'.tax = priced.tax ∧ priced'.grandTotal = priced.grandTotal := by
  obtain ⟨standard, derived, pricing⟩ := exists_pricing h
  obtain ⟨standard', hstandard, hpermStandard⟩ :=
    exists_mapM_of_perm (hperm.filter _) pricing.mapM_standard
  obtain ⟨derived', hderived, hpermDerived⟩ :=
    exists_mapM_of_perm (hperm.filter _) pricing.mapM_derived
  have hentries : (standard' ++ derived').Perm priced.entries := by
    rw [pricing.entries]
    exact hpermStandard.append hpermDerived
  rw [← total_eq_of_perm hpermStandard] at hderived
  let priced' : Priced := { priced with entries := standard' ++ derived' }
  have pricing' : Pricing rates items' priced' standard' derived' :=
    ⟨hstandard, hderived, rfl, pricing.taxableSubtotal.trans (total_eq_of_perm hpermStandard).symm,
      pricing.subtotal.trans (total_eq_of_perm hentries).symm, pricing.tax, pricing.grandTotal,
      pricing.taxRate⟩
  exact ⟨priced', pricing'.price_eq, hentries, rfl, rfl, rfl, rfl⟩

theorem category_of_itemEntry {rate : Decimal} {subtotal : Int} {x : Item} {e : Entry}
    (h : itemEntry rate subtotal x = .ok e) : e.category = x.category := by
  unfold itemEntry at h
  split at h
  · rename_i hderived
    exact (Item.yields_of_derivedEntry hderived h).category
  · rename_i hstandard
    refine (Item.yields_of_standardEntry ?_ h).category
    cases hc : x.category <;> simp [hc, Category.isDerived] at hstandard ⊢

/-- Once the sum of the standard amounts is known, every entry is found from its item alone. -/
theorem Pricing.exists_entry (pricing : Pricing rates items priced standard derived) :
    ∃ entry : Item → Entry,
      (∀ x ∈ items, itemEntry rates.welfare priced.taxableSubtotal x = .ok (entry x)) ∧
        priced.entries = standardFirst (items.map entry) := by
  have hexists : ∀ x ∈ items, ∃ e, itemEntry rates.welfare priced.taxableSubtotal x = .ok e := by
    intro x hx
    rw [itemEntry, pricing.taxableSubtotal]
    split
    · rename_i hderived
      exact exists_of_mapM_eq_ok pricing.mapM_derived (List.mem_filter.2 ⟨hx, hderived⟩)
    · rename_i hstandard
      exact exists_of_mapM_eq_ok pricing.mapM_standard
        (List.mem_filter.2 ⟨hx, by simpa using hstandard⟩)
  choose! entry hentry using hexists
  refine ⟨entry, hentry, ?_⟩
  have hstandard : (standardItems items).mapM standardEntry =
      .ok ((standardItems items).map entry) := by
    refine mapM_eq_ok_map fun x hx => ?_
    obtain ⟨hx, hcategory⟩ := List.mem_filter.1 hx
    rw [← hentry x hx, itemEntry, if_neg (by simpa using hcategory)]
  have hderived : (derivedItems items).mapM (derivedEntry rates.welfare (total standard)) =
      .ok ((derivedItems items).map entry) := by
    refine mapM_eq_ok_map fun x hx => ?_
    obtain ⟨hx, hcategory⟩ := List.mem_filter.1 hx
    rw [← hentry x hx, itemEntry, if_pos hcategory, pricing.taxableSubtotal]
  have hcategory : ∀ x ∈ items, (entry x).category = x.category :=
    fun x hx => category_of_itemEntry (hentry x hx)
  rw [pricing.entries, Except.ok.inj (pricing.mapM_standard.symm.trans hstandard),
    Except.ok.inj (pricing.mapM_derived.symm.trans hderived), standardFirst, List.filter_map,
    List.filter_map, standardItems, derivedItems]
  congr 2
  · exact List.filter_congr fun x hx => by simp [hcategory x hx]
  · exact List.filter_congr fun x hx => by simp [hcategory x hx]

end

/-! ## Lines -/

/-- What the kept lines enter, found line by line. -/
theorem filterMap_lines (entry : Item → Entry) (text : String) :
    ((Text.lines text).filterMap fun line =>
      if IsKept line then some (entry (enteredItem line)) else none) =
      ((keptLines text).map enteredItem).map entry := by
  rw [List.map_map, keptLines, ← List.filterMap_eq_map (f := entry ∘ enteredItem),
    List.filterMap_filter]
  simp only [Function.comp_apply, decide_eq_true_eq]

theorem lineEntry_eq {rate : Decimal} {subtotal : Int} {line : String} {entry : Item → Entry}
    (hlong : IsKept line → ¬ IsOverlong line)
    (hentry : IsKept line → itemEntry rate subtotal (enteredItem line) =
      .ok (entry (enteredItem line))) :
    lineEntry rate subtotal line =
      .ok (if IsKept line then some (entry (enteredItem line)) else none) := by
  rw [lineEntry, Item.ofSheetLine?_eq]
  by_cases hkept : IsKept line
  · rw [if_neg (not_not.2 hkept), if_neg (hlong hkept), if_pos hkept]
    change (some <$> itemEntry rate subtotal (enteredItem line)) = _
    rw [hentry hkept]
    rfl
  · rw [if_pos hkept, if_neg hkept]
    rfl

theorem keptLines_perm {s t : String} (h : (Text.lines s).Perm (Text.lines t)) :
    (keptLines s).Perm (keptLines t) := h.filter _

/-- The lines of a sheet in another order are priced as well: the totals are the same, and so is the
entry of every line. Both sheets have the entries of their standard items before the others, each
group in the order of their lines. -/
theorem price_of_permuted_lines {rates : Rates} {s t : String} {items : List Item}
    {priced : Priced} (hperm : (Text.lines s).Perm (Text.lines t))
    (hitems : Item.ofSheet s = .ok items) (hpriced : price rates items = .ok priced) :
    ∃ items' priced', Item.ofSheet t = .ok items' ∧ price rates items' = .ok priced' ∧
      priced'.taxableSubtotal = priced.taxableSubtotal ∧ priced'.subtotal = priced.subtotal ∧
      priced'.tax = priced.tax ∧ priced'.grandTotal = priced.grandTotal ∧
      priced'.entries.Perm priced.entries ∧
      ∃ shown : String → Option Entry,
        (∀ line ∈ Text.lines s,
          lineEntry rates.welfare priced.taxableSubtotal line = .ok (shown line)) ∧
        priced.entries = standardFirst ((Text.lines s).filterMap shown) ∧
        priced'.entries = standardFirst ((Text.lines t).filterMap shown) := by
  obtain ⟨rfl, hlong⟩ := Item.eq_map_of_ofSheet hitems
  have hkept := keptLines_perm hperm
  have hitems' : Item.ofSheet t = .ok ((keptLines t).map enteredItem) :=
    Item.ofSheet_eq_ok fun line hline => hlong line (hkept.mem_iff.2 hline)
  obtain ⟨priced', hpriced', hentries, htaxable, hsubtotal, htax, htotal⟩ :=
    exists_price_of_perm (hkept.map enteredItem) hpriced
  obtain ⟨standard, derived, pricing⟩ := exists_pricing hpriced
  obtain ⟨standard', derived', pricing'⟩ := exists_pricing hpriced'
  obtain ⟨entry, hentry, horder⟩ := pricing.exists_entry
  obtain ⟨entry', hentry', horder'⟩ := pricing'.exists_entry
  have hsame : ((keptLines t).map enteredItem).map entry' =
      ((keptLines t).map enteredItem).map entry := by
    refine List.map_congr_left fun x hx => ?_
    have hx' := hentry' x hx
    rw [htaxable, hentry x ((hkept.map enteredItem).mem_iff.2 hx)] at hx'
    exact (Except.ok.inj hx').symm
  refine ⟨_, priced', hitems', hpriced', htaxable, hsubtotal, htax, htotal, hentries,
    fun line => if IsKept line then some (entry (enteredItem line)) else none, ?_, ?_, ?_⟩
  · intro line hline
    exact lineEntry_eq (fun hkept => hlong line (mem_keptLines.2 ⟨hline, hkept⟩))
      fun hkept => hentry _ (List.mem_map_of_mem (mem_keptLines.2 ⟨hline, hkept⟩))
  · rw [filterMap_lines, horder]
  · rw [filterMap_lines, horder', hsame]

/-- A surcharge and a blank line among standard items, and the same lines the other way round. -/
def specimenSheet : String := "塗装, .29㎡, 100\n諸経費, 7.5%\n\n設計, 2日, 15000"

def specimenSheetReversed : String := "設計, 2日, 15000\n\n諸経費, 7.5%\n塗装, .29㎡, 100"

theorem price_of_specimenSheetReversed :
    (Text.lines specimenSheet).Perm (Text.lines specimenSheetReversed) ∧
      ∃ items priced items' priced',
        Item.ofSheet specimenSheet = .ok items ∧ price {} items = .ok priced ∧
        Item.ofSheet specimenSheetReversed = .ok items' ∧ price {} items' = .ok priced' ∧
        priced'.taxableSubtotal = priced.taxableSubtotal ∧ priced'.subtotal = priced.subtotal ∧
        priced'.tax = priced.tax ∧ priced'.grandTotal = priced.grandTotal ∧
        priced'.entries.Perm priced.entries := by
  have hlines : Text.lines specimenSheet =
      ["塗装, .29㎡, 100", "諸経費, 7.5%", "", "設計, 2日, 15000"] := by cbv
  have hlines' : Text.lines specimenSheetReversed =
      ["設計, 2日, 15000", "", "諸経費, 7.5%", "塗装, .29㎡, 100"] := by cbv
  have hperm : (Text.lines specimenSheet).Perm (Text.lines specimenSheetReversed) := by
    rw [hlines, hlines']
    decide
  have hkept : keptLines specimenSheet =
      ["塗装, .29㎡, 100", "諸経費, 7.5%", "設計, 2日, 15000"] := by cbv
  have hitems : Item.ofSheet specimenSheet = .ok ((keptLines specimenSheet).map enteredItem) := by
    refine Item.ofSheet_eq_ok ?_
    rw [hkept]
    decide_cbv
  obtain ⟨priced, hpriced⟩ : ∃ priced,
      price {} ((keptLines specimenSheet).map enteredItem) = .ok priced := by
    have hfirst : lineFields "塗装, .29㎡, 100" = [['塗', '装'], ".29㎡".toList, "100".toList] := by cbv
    have hsecond : lineFields "諸経費, 7.5%" = ["諸経費".toList, "7.5%".toList] := by cbv
    have hthird : lineFields "設計, 2日, 15000" = ["設計".toList, "2日".toList, "15000".toList] := by cbv
    rw [hkept]
    simp only [List.map_cons, List.map_nil, enteredItem, quantityField, priceDigits, lineField,
      hfirst, hsecond, hthird]
    exact exists_of_isOk (by decide +kernel)
  obtain ⟨items', priced', hitems', hpriced', htaxable, hsubtotal, htax, htotal, hentries, -⟩ :=
    price_of_permuted_lines hperm hitems hpriced
  exact ⟨hperm, _, priced, items', priced', hitems, hpriced, hitems', hpriced', htaxable, hsubtotal,
    htax, htotal, hentries⟩

end Billing
