import Billing.Proofs.Entries
import Billing.Proofs.Number.Order
import Billing.Proofs.Sheets
import Billing.Proofs.Wrapping
import Mathlib.Algebra.Order.BigOperators.Group.List

/-!
# Adding a line

No number that a sheet enters is negative, and at rates that are not negative no amount is. A line
more makes no total smaller: a standard item adds its amount, whatever is charged on the standard
amounts is charged on a larger sum, and rounding keeps the order (`Decimal.result_mono`).

* `Item.isNonnegative_of_ofSheet`: what a sheet enters.
* `Pricing.isAtMost`: the totals of a pricing of some of the items.
* `totals_mono_of_added_line`: the totals of a sheet with and without a line.
-/

namespace Billing

open Decimal (result result_mono result_nonneg)

/-! ## Entered numbers -/

theorem Binary64.signBit_ofQuotient (negative : Bool) (n d : Nat) :
    (ofQuotient negative n d).signBit = negative := by
  unfold ofQuotient
  split <;> rfl

theorem Binary64.signBit_ofDecimal (negative : Bool) (c : Nat) (e : Int) :
    (ofDecimal negative c e).signBit = negative := by
  unfold ofDecimal
  split_ifs
  · rfl
  · rfl
  · rfl
  · exact signBit_ofQuotient _ _ _

theorem signBit_readQuantity (s : List Char) : (readQuantity s).1.signBit = false := by
  have hzero : (0 : Binary64).signBit = false := Binary64.signBit_ofQuotient _ _ _
  have hone : (1 : Binary64).signBit = false := Binary64.signBit_ofQuotient _ _ _
  unfold readQuantity
  split
  · exact hone
  · split
    · rename_i n rest hnumber
      have hsign : n.negative = false := by
        simp only [leadingNumber?] at hnumber
        split at hnumber
        · cases hnumber
        · obtain ⟨rfl, -⟩ := Prod.mk.inj (Option.some.inj hnumber)
          rfl
      split
      · exact hzero
      · rw [Numeral.toBinary64, hsign]
        exact Binary64.signBit_ofDecimal _ _ _
    · exact hzero

theorem Decimal.toRat_ofBinary64_nonneg {q : Binary64} (h : q.signBit = false) :
    0 ≤ (ofBinary64 q).toRat := by
  cases q with
  | finite s m =>
    obtain rfl : s = false := h
    rw [ofBinary64_finite]
    simp only [toRat, Bool.false_eq_true, if_false, one_mul]
    positivity
  | infinity | nan => exact le_rfl

/-- Neither number of an item is negative. -/
structure Item.IsNonnegative (x : Item) : Prop where
  quantity : 0 ≤ x.quantityValue
  unitPrice : 0 ≤ x.unitPrice

theorem isNonnegative_enteredItem (line : String) : (enteredItem line).IsNonnegative := by
  unfold enteredItem Item.ofFields
  split_ifs
  · exact ⟨Decimal.toRat_ofBinary64_nonneg (q := 1) (Binary64.signBit_ofQuotient _ _ _), le_rfl⟩
  · exact ⟨Decimal.toRat_ofBinary64_nonneg (signBit_readQuantity _), Int.natCast_nonneg _⟩
  · exact ⟨Decimal.toRat_ofBinary64_nonneg (signBit_readQuantity _), Int.natCast_nonneg _⟩

theorem Item.isNonnegative_of_ofSheet {text : String} {items : List Item}
    (h : ofSheet text = .ok items) : ∀ x ∈ items, x.IsNonnegative := by
  obtain ⟨rfl, -⟩ := eq_map_of_ofSheet h
  simpa using fun line _ => isNonnegative_enteredItem line

/-! ## Single amounts -/

theorem floorProduct_nonneg {x y : Decimal} {n : Int} (hx : 0 ≤ x.toRat) (hy : 0 ≤ y.toRat)
    (h : floorProduct x y = .ok n) : 0 ≤ n := by
  rw [floorProduct_eq_floor_result hx hy h]
  exact Int.floor_nonneg.2 (result_nonneg _)

section

variable {x : Item} {e e' : Entry} {rate : Decimal} {subtotal subtotal' : Int}

theorem amount_nonneg_of_standardEntry (hx : x.IsNonnegative) (h : standardEntry x = .ok e) :
    0 ≤ e.amount := by
  simp only [standardEntry, bind_eq_ok, pure_eq_ok] at h
  obtain ⟨amount, hamount, rfl⟩ := h
  refine floorProduct_nonneg hx.quantity ?_ hamount
  rw [Decimal.toRat_ofInt]
  exact_mod_cast hx.unitPrice

/-- A product with a larger sum, rounded down, is no smaller. -/
theorem floorProduct_ofInt_mono {n n' : Int} (hrate : 0 ≤ rate.toRat) (hnonneg : 0 ≤ subtotal)
    (hle : subtotal ≤ subtotal') (h : floorProduct (.ofInt subtotal) rate = .ok n)
    (h' : floorProduct (.ofInt subtotal') rate = .ok n') : 0 ≤ n ∧ n ≤ n' := by
  have hsubtotal : (0 : Rat) ≤ (Decimal.ofInt subtotal).toRat := by
    rw [Decimal.toRat_ofInt]
    exact_mod_cast hnonneg
  have hsubtotals : (Decimal.ofInt subtotal).toRat ≤ (Decimal.ofInt subtotal').toRat := by
    rw [Decimal.toRat_ofInt, Decimal.toRat_ofInt]
    exact_mod_cast hle
  refine ⟨floorProduct_nonneg hsubtotal hrate h, ?_⟩
  rw [floorProduct_eq_floor_result hsubtotal hrate h,
    floorProduct_eq_floor_result (hsubtotal.trans hsubtotals) hrate h']
  refine Int.floor_mono (result_mono (by positivity) ?_)
  gcongr

/-- What a surcharge is found from: a product and its hundredth, both results. -/
theorem amount_eq_of_surchargeEntry (hx : x.IsNonnegative) (hnonneg : 0 ≤ subtotal)
    (h : surchargeEntry subtotal x = .ok e) :
    e.amount = ⌊result (result (subtotal * x.quantityValue) / 100)⌋ := by
  simp only [surchargeEntry, bind_eq_ok, pure_eq_ok] at h
  obtain ⟨z, hmul, amount, ⟨y, hhundredth, hfloor⟩, rfl⟩ := h
  have hsubtotal : (0 : Rat) ≤ (Decimal.ofInt subtotal).toRat := by
    rw [Decimal.toRat_ofInt]
    exact_mod_cast hnonneg
  obtain ⟨s, c, p, rfl⟩ := Decimal.exists_of_floor hfloor
  have hz := Decimal.toRat_of_mul_eq_result hsubtotal hx.quantity
    (Decimal.exists_of_hundredth_eq_finite hhundredth) hmul
  rw [Decimal.toRat_ofInt] at hz
  have hy := Decimal.toRat_of_hundredth_eq_result (hz ▸ result_nonneg _) ⟨_, _, _, rfl⟩ hhundredth
  rw [hz] at hy
  exact (Decimal.floor_eq hfloor).trans (congrArg _ hy)

/-- What is charged on a larger sum is no smaller. -/
theorem amount_mono_of_derivedEntry (hrate : 0 ≤ rate.toRat) (hx : x.IsNonnegative)
    (hnonneg : 0 ≤ subtotal) (hle : subtotal ≤ subtotal')
    (h : derivedEntry rate subtotal x = .ok e) (h' : derivedEntry rate subtotal' x = .ok e') :
    0 ≤ e.amount ∧ e.amount ≤ e'.amount := by
  cases hc : x.category with
  | welfareLevy =>
    simp only [derivedEntry, hc, levyEntry, bind_eq_ok, pure_eq_ok] at h h'
    obtain ⟨amount, hamount, rfl⟩ := h
    obtain ⟨amount', hamount', rfl⟩ := h'
    exact floorProduct_ofInt_mono hrate hnonneg hle hamount hamount'
  | standard | percentageSurcharge =>
    simp only [derivedEntry, hc] at h h'
    have hlow : (0 : Rat) ≤ subtotal := by exact_mod_cast hnonneg
    have hhigh : (subtotal : Rat) ≤ subtotal' := by exact_mod_cast hle
    rw [amount_eq_of_surchargeEntry hx hnonneg h,
      amount_eq_of_surchargeEntry hx (hnonneg.trans hle) h']
    have hproducts := result_mono (mul_nonneg hlow hx.quantity)
      (mul_le_mul_of_nonneg_right hhigh hx.quantity)
    refine ⟨Int.floor_nonneg.2 (result_nonneg _), Int.floor_mono (result_mono ?_ ?_)⟩
    · exact div_nonneg (result_nonneg _) (by norm_num)
    · gcongr

end

/-! ## Items -/

theorem exists_mapM_of_sublist {β γ : Type} {f : β → Except Fault γ} {xs xs' : List β}
    {ys' : List γ} (hsub : xs.Sublist xs') (h : xs'.mapM f = .ok ys') :
    ∃ ys, xs.mapM f = .ok ys ∧ ys.Sublist ys' := by
  induction hsub generalizing ys' with
  | slnil => exact ⟨ys', h, .refl _⟩
  | cons x _ ih =>
    simp only [List.mapM_cons, bind_eq_ok, pure_eq_ok] at h
    obtain ⟨y, -, rest, hrest, rfl⟩ := h
    obtain ⟨ys, hys, hsub⟩ := ih hrest
    exact ⟨ys, hys, hsub.cons y⟩
  | cons_cons x _ ih =>
    simp only [List.mapM_cons, bind_eq_ok, pure_eq_ok] at h ⊢
    obtain ⟨y, hy, rest, hrest, rfl⟩ := h
    obtain ⟨ys, hys, hsub⟩ := ih hrest
    exact ⟨y :: ys, ⟨y, hy, ys, hys, rfl⟩, hsub.cons_cons y⟩

/-- What is found for the same items in two ways, item by item. -/
theorem forall₂_of_mapM {β γ : Type} {f g : β → Except Fault γ} {r : γ → γ → Prop} {xs : List β}
    {ys zs : List γ} (hys : xs.mapM f = .ok ys) (hzs : xs.mapM g = .ok zs)
    (h : ∀ x ∈ xs, ∀ y z, f x = .ok y → g x = .ok z → r y z) : List.Forall₂ r ys zs := by
  induction xs generalizing ys zs with
  | nil =>
    obtain rfl := pure_eq_ok.1 hys
    obtain rfl := pure_eq_ok.1 hzs
    exact .nil
  | cons x xs ih =>
    obtain ⟨hx, hxs⟩ := List.forall_mem_cons.1 h
    simp only [List.mapM_cons, bind_eq_ok, pure_eq_ok] at hys hzs
    obtain ⟨y, hy, ys, hys, rfl⟩ := hys
    obtain ⟨z, hz, zs, hzs, rfl⟩ := hzs
    exact .cons (hx y z hy hz) (ih hys hzs hxs)

theorem total_append (entries entries' : List Entry) :
    total (entries ++ entries') = total entries + total entries' := by
  simp only [total_eq_sum, List.map_append, List.sum_append]

theorem total_nonneg {entries : List Entry} (h : ∀ e ∈ entries, 0 ≤ e.amount) :
    0 ≤ total entries := by
  rw [total_eq_sum]
  exact List.sum_nonneg (by simpa using h)

theorem total_le_of_sublist {entries entries' : List Entry} (hsub : entries.Sublist entries')
    (h : ∀ e ∈ entries', 0 ≤ e.amount) : total entries ≤ total entries' := by
  rw [total_eq_sum, total_eq_sum]
  exact (hsub.map _).sum_le_sum (by simpa using h)

theorem total_le_of_forall₂ {entries entries' : List Entry}
    (h : List.Forall₂ (fun e e' => e.amount ≤ e'.amount) entries entries') :
    total entries ≤ total entries' := by
  rw [total_eq_sum, total_eq_sum]
  refine List.Forall₂.sum_le_sum ?_
  simpa [List.forall₂_map_left_iff, List.forall₂_map_right_iff] using h

/-- No amount and no total is negative, and all amounts together are no less than the standard
ones. -/
structure Priced.IsNonnegative (p : Priced) : Prop where
  amount : ∀ e ∈ p.entries, 0 ≤ e.amount
  taxableSubtotal : 0 ≤ p.taxableSubtotal
  subtotal : 0 ≤ p.subtotal
  tax : 0 ≤ p.tax
  grandTotal : 0 ≤ p.grandTotal
  taxableSubtotal_le : p.taxableSubtotal ≤ p.subtotal

/-- No total is more than that of other prices. -/
structure Priced.IsAtMost (p q : Priced) : Prop where
  taxableSubtotal : p.taxableSubtotal ≤ q.taxableSubtotal
  subtotal : p.subtotal ≤ q.subtotal
  tax : p.tax ≤ q.tax
  grandTotal : p.grandTotal ≤ q.grandTotal

section

variable {rates : Rates} {items items' : List Item} {priced priced' : Priced}
  {standard derived standard' derived' : List Entry}

namespace Pricing

theorem standard_nonneg (pricing : Pricing rates items priced standard derived)
    (hitems : ∀ x ∈ items, x.IsNonnegative) : ∀ e ∈ standard, 0 ≤ e.amount := by
  intro e he
  obtain ⟨x, hx, hentry⟩ := exists_of_mem_mapM pricing.mapM_standard he
  exact amount_nonneg_of_standardEntry (hitems x (List.mem_of_mem_filter hx)) hentry

theorem derived_nonneg (pricing : Pricing rates items priced standard derived)
    (hwelfare : 0 ≤ rates.welfare.toRat) (hitems : ∀ x ∈ items, x.IsNonnegative) :
    ∀ e ∈ derived, 0 ≤ e.amount := by
  intro e he
  obtain ⟨x, hx, hentry⟩ := exists_of_mem_mapM pricing.mapM_derived he
  exact (amount_mono_of_derivedEntry hwelfare (hitems x (List.mem_of_mem_filter hx))
    (total_nonneg (pricing.standard_nonneg hitems)) le_rfl hentry hentry).1

theorem isNonnegative (pricing : Pricing rates items priced standard derived)
    (htax : 0 ≤ rates.tax.toRat) (hwelfare : 0 ≤ rates.welfare.toRat)
    (hitems : ∀ x ∈ items, x.IsNonnegative) : priced.IsNonnegative := by
  have hstandard := pricing.standard_nonneg hitems
  have hderived := pricing.derived_nonneg hwelfare hitems
  have hamount : ∀ e ∈ priced.entries, 0 ≤ e.amount := by
    rw [pricing.entries]
    exact List.forall_mem_append.2 ⟨hstandard, hderived⟩
  have hsubtotal : priced.subtotal = priced.taxableSubtotal + total derived := by
    rw [pricing.subtotal, pricing.entries, total_append, pricing.taxableSubtotal]
  have htaxable : 0 ≤ priced.taxableSubtotal := pricing.taxableSubtotal ▸ total_nonneg hstandard
  have hrest := total_nonneg hderived
  have hcharge := (floorProduct_ofInt_mono htax (by omega) le_rfl pricing.tax pricing.tax).1
  exact ⟨hamount, htaxable, by omega, hcharge, by rw [pricing.grandTotal]; omega, by omega⟩

/-- Prices of some of the items: their standard amounts are among those of all items, and what is
derived from these is no more than what is derived from the others. -/
theorem isAtMost (pricing : Pricing rates items priced standard derived)
    (pricing' : Pricing rates items' priced' standard' derived') (htax : 0 ≤ rates.tax.toRat)
    (hwelfare : 0 ≤ rates.welfare.toRat) (hitems : ∀ x ∈ items', x.IsNonnegative)
    (hsub : items.Sublist items') : priced.IsAtMost priced' := by
  have hitem : ∀ x ∈ items, x.IsNonnegative := fun x hx => hitems x (hsub.subset hx)
  have hnonneg := total_nonneg (pricing.standard_nonneg hitem)
  -- the standard amounts
  obtain ⟨same, hsame, hsubStandard⟩ :=
    exists_mapM_of_sublist (hsub.filter (! ·.category.isDerived)) pricing'.mapM_standard
  obtain rfl := Except.ok.inj (pricing.mapM_standard.symm.trans hsame)
  have hstandard := total_le_of_sublist hsubStandard (pricing'.standard_nonneg hitems)
  -- the derived items on the larger sum
  obtain ⟨raised, hraised, hsubDerived⟩ :=
    exists_mapM_of_sublist (hsub.filter (·.category.isDerived)) pricing'.mapM_derived
  have hderived := total_le_of_sublist hsubDerived (pricing'.derived_nonneg hwelfare hitems)
  have hraise : total derived ≤ total raised := by
    refine total_le_of_forall₂ (forall₂_of_mapM pricing.mapM_derived hraised ?_)
    intro x hx e e' he he'
    exact (amount_mono_of_derivedEntry hwelfare (hitem x (List.mem_of_mem_filter hx)) hnonneg
      hstandard he he').2
  have hsubtotal : priced.subtotal ≤ priced'.subtotal := by
    rw [pricing.subtotal, pricing'.subtotal, pricing.entries, pricing'.entries, total_append,
      total_append]
    omega
  have hcharge := (floorProduct_ofInt_mono htax
    (pricing.isNonnegative htax hwelfare hitem).subtotal hsubtotal pricing.tax pricing'.tax).2
  refine ⟨?_, hsubtotal, hcharge, ?_⟩
  · rwa [pricing.taxableSubtotal, pricing'.taxableSubtotal]
  · rw [pricing.grandTotal, pricing'.grandTotal]
    omega

end Pricing

end

/-! ## Lines -/

namespace Text

theorem splitOn_append_cons (sep : Char) (p s : List Char) :
    splitOn sep (p ++ sep :: s) = splitOn sep p ++ splitOn sep s := by
  induction p using splitOn.induct sep with
  | case1 p h =>
    have hp : sep ∉ p := fun hmem => by simpa using List.dropWhile_eq_nil_iff.1 h _ hmem
    rw [splitOn_append hp, splitOn_of_not_mem hp]
    rfl
  | case2 p c rest h ih =>
    have hc : c = sep := by
      have := List.head_dropWhile_not (l := p) (· != sep) (by simp [h])
      simpa [h] using this
    have hfirst : sep ∉ p.takeWhile (· != sep) := fun hmem => by
      simpa using List.mem_takeWhile_imp hmem
    have hp := List.takeWhile_append_dropWhile (p := (· != sep)) (l := p)
    rw [h, hc] at hp
    rw [← hp, List.append_assoc, List.cons_append, splitOn_append hfirst, splitOn_append hfirst,
      ih, List.cons_append]

theorem lines_unlines {ls : List String} (h : ls ≠ []) : lines (unlines ls) = ls.flatMap lines := by
  simp only [lines, pieces, toList_unlines]
  induction ls with
  | nil => exact absurd rfl h
  | cons l ls ih =>
    by_cases hnil : ls = []
    · subst hnil
      simp [joinWith, List.intercalate, lines, pieces]
    · rw [List.map_cons, joinWith_cons (by simpa using hnil), splitOn_append_cons,
        List.map_append, ih hnil, List.flatMap_cons, lines, pieces]

end Text

/-- Lines are kept each by itself, also where a text is made of them. -/
theorem keptLines_unlines (ls : List String) :
    keptLines (Text.unlines ls) = ls.flatMap keptLines := by
  by_cases h : ls = []
  · subst h
    cbv
  · unfold keptLines
    rw [Text.lines_unlines h, List.filter_flatMap]

/-- A line that is added to a sheet, wherever it stands, makes no total smaller. Neither with the
line nor without it is an amount or a total negative. The sheets are given by the lines that they
are joined of, so that the first line of an empty sheet is one that is added, too. -/
theorem totals_mono_of_added_line {rates : Rates} (htax : 0 ≤ rates.tax.toRat)
    (hwelfare : 0 ≤ rates.welfare.toRat) {before after : List String} {line : String}
    {items items' : List Item} {priced priced' : Priced}
    (hitems : Item.ofSheet (Text.unlines (before ++ after)) = .ok items)
    (hpriced : price rates items = .ok priced)
    (hitems' : Item.ofSheet (Text.unlines (before ++ line :: after)) = .ok items')
    (hpriced' : price rates items' = .ok priced') :
    priced.IsNonnegative ∧ priced'.IsNonnegative ∧ priced.IsAtMost priced' := by
  obtain ⟨standard, derived, pricing⟩ := exists_pricing hpriced
  obtain ⟨standard', derived', pricing'⟩ := exists_pricing hpriced'
  have hsub : items.Sublist items' := by
    rw [(Item.eq_map_of_ofSheet hitems).1, (Item.eq_map_of_ofSheet hitems').1]
    simp only [keptLines_unlines, List.flatMap_append, List.flatMap_cons]
    exact ((List.Sublist.refl _).append (List.sublist_append_right _ _)).map _
  exact ⟨pricing.isNonnegative htax hwelfare (Item.isNonnegative_of_ofSheet hitems),
    pricing'.isNonnegative htax hwelfare (Item.isNonnegative_of_ofSheet hitems'),
    pricing.isAtMost pricing' htax hwelfare (Item.isNonnegative_of_ofSheet hitems') hsub⟩

/-- A surcharge between two lines of which the first has a product of 29 digits. -/
theorem totals_mono_of_largeLines :
    0 ≤ ({} : Rates).tax.toRat ∧ 0 ≤ ({} : Rates).welfare.toRat ∧
      ∃ items priced items' priced',
        Item.ofSheet (Text.unlines (["A, 3, 33333333333333333333333333333"] ++ ["B, 1, 95"])) =
          .ok items ∧ price {} items = .ok priced ∧
        Item.ofSheet (Text.unlines
          (["A, 3, 33333333333333333333333333333"] ++ "諸経費, 7.5%" :: ["B, 1, 95"])) =
          .ok items' ∧ price {} items' = .ok priced' ∧
        priced.IsNonnegative ∧ priced'.IsNonnegative ∧ priced.IsAtMost priced' := by
  have htax : 0 ≤ ({} : Rates).tax.toRat := by norm_num [Decimal.toRat]
  have hwelfare : 0 ≤ ({} : Rates).welfare.toRat := by norm_num [Decimal.toRat]
  obtain ⟨items, hitems, priced, hpriced⟩ : ∃ items, Item.ofSheet (Text.unlines
      (["A, 3, 33333333333333333333333333333"] ++ ["B, 1, 95"])) = .ok items ∧
      ∃ priced, price {} items = .ok priced :=
    ⟨largeItems, ofSheet_largeSheet, largePriced, price_largeItems⟩
  obtain ⟨items', hitems', priced', hpriced'⟩ : ∃ items', Item.ofSheet (Text.unlines
      (["A, 3, 33333333333333333333333333333"] ++ "諸経費, 7.5%" :: ["B, 1, 95"])) = .ok items' ∧
      ∃ priced', price {} items' = .ok priced' := by
    have hkept : keptLines (Text.unlines (["A, 3, 33333333333333333333333333333"] ++
        "諸経費, 7.5%" :: ["B, 1, 95"])) =
        ["A, 3, 33333333333333333333333333333", "諸経費, 7.5%", "B, 1, 95"] := by cbv
    have hfirst : lineFields "A, 3, 33333333333333333333333333333" =
        [['A'], ['3'], "33333333333333333333333333333".toList] := by cbv
    have hsecond : lineFields "諸経費, 7.5%" = ["諸経費".toList, "7.5%".toList] := by cbv
    have hthird : lineFields "B, 1, 95" = [['B'], ['1'], ['9', '5']] := by cbv
    refine ⟨_, Item.ofSheet_eq_ok ?_, ?_⟩
    · rw [hkept]
      decide_cbv
    · rw [hkept]
      simp only [List.map_cons, List.map_nil, enteredItem, quantityField, priceDigits, lineField,
        hfirst, hsecond, hthird]
      exact exists_of_isOk (by decide +kernel)
  exact ⟨htax, hwelfare, items, priced, items', priced', hitems, hpriced, hitems', hpriced',
    totals_mono_of_added_line htax hwelfare hitems hpriced hitems' hpriced'⟩

end Billing
