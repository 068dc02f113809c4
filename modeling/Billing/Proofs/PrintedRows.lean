import Billing.Proofs.Number.Bounded
import Billing.Proofs.Preparation
import Billing.Proofs.Sums

/-!
# Rows that multiply out

Who multiplies the quantity on a printed row by its unit price finds its amount. The quantity is
printed from its exact value or from its shortest digits (`quantityFigure`), and charged by its
shortest digits; for integers of 15 digits the two are the same.

* `Binary64.isWordOf_quantityFigure`: what is read off a quantity is what is charged.
* `multiplies_out_of_prepare`: the rows of a prepared document multiply out, those of lump sums and
  percentages apart, which show one for any quantity.
-/

namespace Billing

open Decimal (precision nearest)
open Number (digitCount ungroup)
open Text (isBlank isDigit)

/-! ## The number in front of a text -/

/-- The number that is written in front of a text, up to the first blank and without commas. -/
def leadingFigure? (s : String) : Option Rat :=
  (Numeral.read? (ungroup (s.toList.takeWhile (! isBlank ·)))).map (·.toRat)

/-- A word without blanks stands in front of a text whose ends are trimmed. -/
theorem takeWhile_trim_append {w : List Char} (hsome : w ≠ []) (hw : ∀ c ∈ w, isBlank c = false)
    (rest : List Char) : (Text.trim (w ++ ' ' :: rest)).takeWhile (! isBlank ·) = w := by
  obtain ⟨c, w, rfl⟩ := List.exists_cons_of_ne_nil hsome
  have hleft : Text.trimLeft (c :: w ++ ' ' :: rest) = c :: w ++ ' ' :: rest := by
    simp [Text.trimLeft, hw c List.mem_cons_self]
  have hkept : (Text.trimRight (' ' :: rest)).takeWhile (! isBlank ·) = [] := by
    cases htail : Text.trimRight (' ' :: rest) with
    | nil => rfl
    | cons d tail =>
      obtain ⟨after, hafter⟩ := Text.trimRight_isPrefix (' ' :: rest)
      rw [htail] at hafter
      obtain rfl : d = ' ' := (List.cons.inj hafter).1
      exact List.takeWhile_cons_of_neg (by decide)
  rw [Text.trim, hleft, Text.trimRight_append hw, List.takeWhile_append_of_pos (by simpa using hw),
    hkept, List.append_nil]

/-- A word without blanks that writes a number, commas apart. -/
structure IsWordOf (word : String) (value : Rat) : Prop where
  isBlank_eq_false : ∀ c ∈ word.toList, isBlank c = false
  read? : (Numeral.read? (ungroup word.toList)).map (·.toRat) = some value

/-- The number in front of a text is that of its first word. -/
theorem IsWordOf.leadingFigure? {word : String} {value : Rat} (h : IsWordOf word value)
    (rest : String) : leadingFigure? (Text.strip (word ++ " " ++ rest)) = some value := by
  have hsome : word.toList ≠ [] := by
    intro hempty
    have hread := h.read?
    rw [hempty] at hread
    cases hread
  have happend : (word ++ " " ++ rest).toList = word.toList ++ ' ' :: rest.toList := by simp
  rw [Billing.leadingFigure?, Text.strip, happend, String.toList_ofList,
    takeWhile_trim_append hsome h.isBlank_eq_false, h.read?]

/-! ## Quantities -/

namespace Number

theorem ungroup_signed (negative : Bool) (s : List Char) :
    ungroup (signed negative s).toList = if negative then '-' :: ungroup s else ungroup s := by
  cases negative <;> simp [signed, ungroup]

/-- A text is as free of blanks as it is without its commas. -/
theorem isBlank_of_ungroup {s : List Char} (h : ∀ c ∈ ungroup s, isBlank c = false) :
    ∀ c ∈ s, isBlank c = false := by
  intro c hc
  by_cases hcomma : c = ','
  · rw [hcomma]
    decide
  · exact h c (List.mem_filter.2 ⟨hc, by simpa using hcomma⟩)

end Number

theorem isWordOf_signed {negative : Bool} {size digits : List Char} {n : Numeral}
    (hsize : ungroup size = digits) (hblank : ∀ c ∈ digits, isBlank c = false)
    (hread : Numeral.read? (if negative then '-' :: digits else digits) = some n) :
    IsWordOf (Number.signed negative size) n.toRat := by
  have hword := Number.ungroup_signed negative size
  rw [hsize] at hword
  refine ⟨Number.isBlank_of_ungroup ?_, by rw [hword, hread, Option.map_some]⟩
  rw [hword]
  split
  · exact List.forall_mem_cons.2 ⟨by decide, hblank⟩
  · exact hblank

theorem isWordOf_integer (n : Int) :
    IsWordOf (Number.signed (n < 0) (Number.group (Number.digits n.natAbs))) n := by
  have hdigits : ∀ c ∈ Number.digits n.natAbs, c.isDigit :=
    fun c hc => Number.isDigit_of_mem_digits hc
  have hcomma : ',' ∉ Number.digits n.natAbs := fun hmem => absurd (hdigits _ hmem) (by decide)
  have hvalue : Numeral.toRat ⟨n < 0, Number.digits n.natAbs, [], 0⟩ = n := by
    simp only [Numeral.toRat, Numeral.coefficient, Numeral.lastPlace, List.append_nil,
      Number.digitsValue_digits, List.length_nil, Nat.cast_zero, sub_self, zpow_zero, mul_one,
      decide_eq_true_eq]
    exact signed_natAbs n
  rw [← hvalue]
  exact isWordOf_signed (Number.ungroup_group hcomma)
    (fun c hc => Text.isBlank_of_isDigit (hdigits c hc))
    (Numeral.read?_whole _ (Number.digits_ne_nil _) fun c hc =>
      Text.isDigit_of_isDigit (hdigits c hc))

namespace Binary64

variable {s : Bool} {m : Magnitude}

theorem toRat_ofBinary64 (s : Bool) (m : Magnitude) :
    (Decimal.ofBinary64 (finite s m)).toRat = (if s then -1 else 1) * m.significant.toRat := by
  rw [Decimal.ofBinary64_finite, Decimal.toRat, Digits.toRat, mul_assoc]

/-- The digits before a point or an exponent are all that is grouped. -/
theorem exists_magnitudeText_eq_append (m : Magnitude) :
    ∃ rest, (∀ c ∈ rest.head?, c = '.' ∨ c = 'e') ∧
      ∀ f, magnitudeText f m = f (layout m).1 ++ rest := by
  simp only [magnitudeText]
  split <;> rename_i h <;> simp only [h, List.append_assoc] <;>
    exact ⟨_, by simp, fun _ => rfl⟩

/-- Grouping changes the text of a magnitude by commas only. -/
theorem ungroup_magnitudeText (m : Magnitude) :
    ungroup (magnitudeText Number.group m) = magnitudeText id m := by
  obtain ⟨rest, -, htext⟩ := exists_magnitudeText_eq_append m
  have hplain : ∀ c ∈ magnitudeText id m, c ≠ ',' :=
    forall_magnitudeText (fun c hc => Text.of_isDigit (p := (· ≠ ',')) (by decide) hc) (by decide) m
  rw [htext] at hplain
  obtain ⟨hwhole, hrest⟩ := List.forall_mem_append.1 hplain
  have hgroup : ungroup (Number.group (layout m).1) = (layout m).1 :=
    Number.ungroup_group fun hmem => hwhole _ hmem rfl
  rw [htext, htext, ungroup, List.filter_append, ← ungroup, hgroup,
    List.filter_eq_self.2 fun c hc => bne_iff_ne.2 (hrest c hc), id]

/-- The grouped text of a number writes the value of its shortest digits. -/
theorem isWordOf_grouped (s : Bool) (m : Magnitude) :
    IsWordOf (finite s m).grouped (Decimal.ofBinary64 (finite s m)).toRat := by
  obtain ⟨k, hlayout⟩ := exists_isLayout m
  have hvalue : Numeral.toRat ⟨s, (layout m).1, (layout m).2.1, (layout m).2.2.getD 0⟩ =
      (Decimal.ofBinary64 (finite s m)).toRat := by
    rw [Decimal.ofBinary64_finite, ← Decimal.toRat_zeros s _ k]
    simp only [Numeral.toRat, Numeral.coefficient, Numeral.lastPlace, hlayout.digitsValue_append,
      hlayout.lastPlace, Decimal.toRat]
  rw [← hvalue]
  exact isWordOf_signed (ungroup_magnitudeText m)
    (forall_magnitudeText (fun c hc => Text.isBlank_of_isDigit hc) (by decide) m)
    (read?_magnitudeText s m)

theorem toRat_floor_of_isInteger {q : Binary64} (h : q.isInteger) :
    (q.toRat.floor : Rat) = q.toRat := by
  cases q with
  | finite s m =>
    have hden : (finite s m).toRat.den = 1 := by simpa [isInteger] using h
    rw [← Rat.coe_int_num_of_den_eq_one hden]
    simp
  | infinity | nan => cases h

theorem toRat_eq_natAbs_floor (h : (finite s m).isInteger) :
    m.toRat = (finite s m).toRat.floor.natAbs := by
  rw [Nat.cast_natAbs, Int.cast_abs, toRat_floor_of_isInteger h, toRat_finite, abs_mul,
    abs_of_nonneg m.toRat_nonneg]
  cases s <;> simp

/-- An integer of 15 digits has its own value as that of its shortest digits. -/
theorem toRat_ofBinary64_of_isInteger (h : (finite s m).isInteger)
    (few : digitCount (finite s m).toRat.floor.natAbs ≤ 15) :
    (Decimal.ofBinary64 (finite s m)).toRat = (finite s m).toRat := by
  have hmagnitude := toRat_eq_natAbs_floor h
  have hfew := (Number.digitCount_le_iff (by norm_num)).1 few
  rw [toRat_ofBinary64, Magnitude.toRat_significant hfew hmagnitude, ← hmagnitude, toRat_finite]

/-- What is read off a quantity is what is charged, if it is a fraction or an integer of 15
digits. -/
theorem isWordOf_quantityFigure
    (few : (finite s m).isInteger → digitCount (finite s m).toRat.floor.natAbs ≤ 15) :
    IsWordOf (quantityFigure (finite s m)) (Decimal.ofBinary64 (finite s m)).toRat := by
  cases h : (finite s m).isInteger with
  | false =>
    have hfigure : quantityFigure (finite s m) = (finite s m).grouped := by
      simp [quantityFigure, h]
    rw [hfigure]
    exact isWordOf_grouped s m
  | true =>
    have hfigure : quantityFigure (finite s m) =
        Number.signed ((finite s m).toRat.floor < 0)
          (Number.group (Number.digits (finite s m).toRat.floor.natAbs)) := by
      simp [quantityFigure, h]
    rw [hfigure, toRat_ofBinary64_of_isInteger h (few h), ← toRat_floor_of_isInteger h]
    exact isWordOf_integer _

end Binary64

/-! ## Products -/

/-- A number of 28 significant digits at most. -/
def Decimal.IsPrecise (x : Rat) : Prop := ∃ m k : Int, x = m * 10 ^ k ∧ m.natAbs < 10 ^ precision

theorem Decimal.IsPrecise.nearest_eq {x : Rat} (h : IsPrecise x) : nearest x = x := by
  obtain ⟨m, k, rfl, hm⟩ := h
  exact nearest_eq_self hm k

/-- An integer is precise if it is rounded to one of 15 digits. -/
theorem Decimal.isPrecise_of_floor {x : Rat} (hx : x.den = 1)
    (few : digitCount ⌊nearest x⌋.natAbs ≤ 15) : IsPrecise x := by
  have hfew := (Number.digitCount_le_iff (by norm_num)).1 few
  have hlow := Int.floor_le (nearest x)
  have hhigh := Int.lt_floor_add_one (nearest x)
  have hbounds : -(10 : Rat) ^ 15 ≤ ⌊nearest x⌋ ∧ (⌊nearest x⌋ : Rat) + 1 ≤ 10 ^ 15 := by
    constructor
    · exact_mod_cast (show -(10 : Int) ^ 15 ≤ ⌊nearest x⌋ by omega)
    · exact_mod_cast (show ⌊nearest x⌋ + 1 ≤ (10 : Int) ^ 15 by omega)
  have hnearest : |nearest x| ≤ 10 ^ 15 := abs_le.2 ⟨by linarith, by linarith⟩
  have hsize : |x| < 10 ^ 28 := by linarith [abs_le_two_mul_abs_nearest x]
  have hnum : (x.num : Rat) = x := Rat.coe_int_num_of_den_eq_one hx
  refine ⟨x.num, 0, by rw [zpow_zero, mul_one, hnum], ?_⟩
  rw [← hnum, ← Int.cast_abs, ← Nat.cast_natAbs] at hsize
  exact_mod_cast hsize

/-! ## Rows -/

/-- An integer of 15 digits is printed, and read back. -/
theorem exists_yen {n : Int} (few : digitCount n.natAbs ≤ 15) :
    ∃ s, yen n = .ok s ∧ readFigure? s = some (n : Rat) := by
  have hwritable : Number.isWritable n := by
    have hfew := (Number.digitCount_le_iff (by norm_num)).1 few
    have hlimit : 10 ^ 15 ≤ 10 ^ Text.digitLimit :=
      Nat.pow_le_pow_right (by norm_num) (by norm_num [Text.digitLimit])
    simpa [Number.isWritable] using hfew.trans_le hlimit
  obtain ⟨s, hs⟩ : ∃ s, yen n = .ok s := by
    simp [yen, Number.groupedText, hwritable, Functor.map, Except.map]
  exact ⟨s, hs, readFigure?_of_yen hs⟩

namespace Entry

/-- Whether the row shows one lump sum, whatever the quantity is. -/
def IsLumpSum (x : Entry) : Prop := x.unit = lumpSumUnit ∨ x.unit = "%"

/-- The numbers that are read off the row of an entry: the one in front of its quantity, its unit
price and its amount. -/
structure IsReadAs (x : Entry) (quantity : Rat) (price amount : Int) : Prop where
  quantity : leadingFigure? (quantityText x) = some quantity
  price : ∃ s, yen x.unitPrice = .ok s ∧ readFigure? s = some (price : Rat)
  amount : ∃ s, yen x.amount = .ok s ∧ readFigure? s = some (amount : Rat)

theorem IsReadAs.eq_of_entry {x : Entry} {q : Rat} {p a : Int} (h : x.IsReadAs q p a) :
    x.unitPrice = p ∧ x.amount = a := by
  obtain ⟨s, hs, hprice⟩ := h.price
  obtain ⟨t, ht, hamount⟩ := h.amount
  have hprice := Option.some.inj ((readFigure?_of_yen hs).symm.trans hprice)
  have hamount := Option.some.inj ((readFigure?_of_yen ht).symm.trans hamount)
  exact ⟨by exact_mod_cast hprice, by exact_mod_cast hamount⟩

/-- The integers on the row of an entry have 15 digits at most. -/
structure HasFewDigits (x : Entry) : Prop where
  quantity : ¬ x.IsLumpSum → x.quantity.isInteger →
    digitCount x.quantity.toRat.floor.natAbs ≤ 15
  unitPrice : digitCount x.unitPrice.natAbs ≤ 15
  amount : digitCount x.amount.natAbs ≤ 15

/-- The amount of an entry is the product that is charged for its quantity, rounded to 28 digits and
then down. -/
structure IsProduct (x : Entry) : Prop where
  isFinite : ∃ s m, x.quantity = .finite s m
  amount : x.amount = ⌊nearest ((Decimal.ofBinary64 x.quantity).toRat * x.unitPrice)⌋

/-- The product of what is charged is the amount, if the one factor is an integer or the product is
precise. -/
theorem IsProduct.floor_eq {x : Entry} (h : x.IsProduct) (few : digitCount x.amount.natAbs ≤ 15)
    {q : Rat} (hq : q = (Decimal.ofBinary64 x.quantity).toRat)
    (hexact : q.den = 1 ∨ Decimal.IsPrecise (q * x.unitPrice)) : ⌊q * x.unitPrice⌋ = x.amount := by
  rw [h.amount, ← hq] at few ⊢
  have hprecise : Decimal.IsPrecise (q * x.unitPrice) := by
    obtain hint | hprecise := hexact
    · refine Decimal.isPrecise_of_floor ?_ few
      rw [← Rat.coe_int_num_of_den_eq_one hint, ← Int.cast_mul, Rat.den_intCast]
    · exact hprecise
  rw [hprecise.nearest_eq]

theorem leadingFigure?_of_isLumpSum {x : Entry} (h : x.IsLumpSum) :
    leadingFigure? (quantityText x) = some 1 := by
  have htext : quantityText x = "1 " ++ lumpSumUnit := if_pos h
  rw [htext]
  decide +kernel

theorem leadingFigure?_of_not_isLumpSum {x : Entry} (h : ¬ x.IsLumpSum) {q : Rat}
    (hword : IsWordOf (quantityFigure x.quantity) q) :
    leadingFigure? (quantityText x) = some q := by
  have htext : quantityText x = Text.strip (quantityFigure x.quantity ++ " " ++ x.unit) := if_neg h
  rw [htext, hword.leadingFigure?]

end Entry

theorem isProduct_of_price {rates : Rates} {items : List Item} {priced : Priced}
    (h : price rates items = .ok priced) {x : Entry} (hx : x ∈ priced.entries)
    (hcategory : x.category = .standard) : x.IsProduct := by
  obtain ⟨standard, derived, pricing⟩ := exists_pricing h
  have hmem : x ∈ standard := by
    rw [← pricing.filter_entries]
    exact List.mem_filter.2 ⟨hx, by simpa using hcategory⟩
  obtain ⟨item, hitem, hentry⟩ := exists_of_mem_mapM pricing.mapM_standard hmem
  have hstandard := category_of_mem_standardItems hitem
  obtain ⟨hquantity, -, hprice⟩ :=
    (Item.yields_of_standardEntry hstandard hentry).of_standard hstandard
  obtain ⟨hfinite, hamount⟩ := Item.amount_of_standardEntry 0 hstandard hentry
  refine ⟨by rwa [hquantity], ?_⟩
  simpa only [Item.amountOf, Item.product, hstandard, Item.quantityValue, ← hquantity, ← hprice]
    using hamount

/-- The entries and totals of a prepared document are those of the items of its sheet. -/
theorem exists_draft_of_prepare {o : Office} {s : Submission} {doc : Document}
    (h : (o.prepare s).1 = .ok doc) :
    ∃ (items : List Item) (draft : Draft) (issuer : Issuer), Item.ofSheet s.sheet = .ok items ∧
      price o.rates items = .ok draft.priced ∧ doc = draft.issue o.notes issuer := by
  obtain ⟨draft, issuer, hdraft, -, rfl⟩ := Office.exists_of_prepare h
  obtain ⟨kind, -, items, hitems, -, priced, hprice, hcheck⟩ := Submission.draft_eq_ok.1 hdraft
  obtain rfl := Draft.priced_of_check hcheck
  exact ⟨items, draft, issuer, hitems, hprice, rfl⟩

/-- The entries of a prepared document are priced items. -/
theorem exists_price_of_prepare {o : Office} {s : Submission} {doc : Document}
    (h : (o.prepare s).1 = .ok doc) :
    ∃ items priced, price o.rates items = .ok priced ∧ doc.entries = priced.entries := by
  obtain ⟨items, draft, issuer, -, hprice, rfl⟩ := exists_draft_of_prepare h
  exact ⟨items, draft.priced, hprice, rfl⟩

/-- On every row of a prepared document, the quantity times the unit price is the amount, if what is
shown is the quantity and not one lump sum in its place, and if it is an integer or the product has
28 digits at most. -/
theorem multiplies_out_of_prepare {o : Office} {s : Submission} {doc : Document}
    (h : (o.prepare s).1 = .ok doc) {x : Entry} (hx : x ∈ doc.entries)
    (shown : x.quantityHidden = false ∧ x.unitPriceHidden = false) (few : x.HasFewDigits) :
    ∃ q p a, x.IsReadAs q p a ∧ (x.IsLumpSum → q = 1) ∧
      ((x.IsLumpSum → x.quantity = 1) → (q.den = 1 ∨ Decimal.IsPrecise (q * p)) →
        ⌊q * p⌋ = a) := by
  obtain ⟨items, priced, hpriced, hentries⟩ := exists_price_of_prepare h
  rw [hentries] at hx
  have hcategory : x.category = .standard := by
    cases hc : x.category <;> simp [Entry.quantityHidden, hc, Category.isDerived] at shown ⊢
  have product := isProduct_of_price hpriced hx hcategory
  have hprice := exists_yen few.unitPrice
  have hamount := exists_yen few.amount
  by_cases hlump : x.IsLumpSum
  · refine ⟨1, x.unitPrice, x.amount, ⟨Entry.leadingFigure?_of_isLumpSum hlump, hprice, hamount⟩,
      fun _ => rfl, fun hone => product.floor_eq few.amount ?_⟩
    rw [hone hlump]
    decide +kernel
  · obtain ⟨s, m, hfinite⟩ := product.isFinite
    have hword : IsWordOf (quantityFigure x.quantity) (Decimal.ofBinary64 x.quantity).toRat := by
      have := few.quantity hlump
      rw [hfinite] at this ⊢
      exact Binary64.isWordOf_quantityFigure this
    exact ⟨_, x.unitPrice, x.amount,
      ⟨Entry.leadingFigure?_of_not_isLumpSum hlump hword, hprice, hamount⟩,
      fun h => absurd h hlump, fun _ => product.floor_eq few.amount rfl⟩

/-- An office with an issuer of its own prepares what can be drafted. -/
theorem prepare_of_price {o : Office} {issuer : Issuer} {s : Submission} {items : List Item}
    {priced : Priced} {kind : DocumentKind} {draft : Draft} (hissuer : o.issuer = some issuer)
    (hkind : DocumentKind.ofValue s.kind = .ok kind) (hitems : Item.ofSheet s.sheet = .ok items)
    (hsome : items ≠ []) (hprice : price o.rates items = .ok priced)
    (hcheck : Draft.check kind s.clientCompany s.clientPerson priced s.remarks o.today =
      .ok draft) : (o.prepare s).1 = .ok (draft.issue o.notes issuer) := by
  have hdraft : s.draft o.rates o.today = .ok draft :=
    Submission.draft_eq_ok.2 ⟨kind, hkind, items, hitems, hsome, priced, hprice, hcheck⟩
  rw [o.prepare_of_draft s hdraft (by rw [Office.issuerNow, hissuer])]

/-- Two and a half metres, two lump sums, and a fraction of 17 digits. -/
def scaffoldSheet : String :=
  "足場, 2.5m, 3500\n看板, 2式, 1000\n鋼材, 0.48400460150913177t, 3710747137740"

def scaffoldItem : Item :=
  { name := "足場", quantityText := "2.5m", quantity := .ofRat (5 / 2), unit := "m",
    unitPrice := 3500 }

def signboardItem : Item :=
  { name := "看板", quantityText := "2式", quantity := 2, unit := "式", unitPrice := 1000 }

def steelItem : Item :=
  { name := "鋼材", quantityText := "0.48400460150913177t",
    quantity := .ofRat (48400460150913177 / 10 ^ 17), unit := "t", unitPrice := 3710747137740 }

def scaffoldEntry : Entry := { scaffoldItem with amount := 8750 }

def signboardEntry : Entry := { signboardItem with amount := 2000 }

def steelEntry : Entry := { steelItem with amount := 1796018689703 }

theorem ofSheet_scaffoldSheet :
    Item.ofSheet scaffoldSheet = .ok [scaffoldItem, signboardItem, steelItem] := by
  have hkept : keptLines scaffoldSheet = ["足場, 2.5m, 3500", "看板, 2式, 1000",
      "鋼材, 0.48400460150913177t, 3710747137740"] := by cbv
  have hfirst : lineFields "足場, 2.5m, 3500" =
      ["足場".toList, "2.5m".toList, "3500".toList] := by cbv
  have hsecond : lineFields "看板, 2式, 1000" =
      ["看板".toList, "2式".toList, "1000".toList] := by cbv
  have hthird : lineFields "鋼材, 0.48400460150913177t, 3710747137740" =
      ["鋼材".toList, "0.48400460150913177t".toList, "3710747137740".toList] := by cbv
  rw [Item.ofSheet_eq_ok, hkept]
  · simp only [List.map_cons, List.map_nil, enteredItem, quantityField, priceDigits, lineField,
      hfirst, hsecond, hthird]
    decide +kernel
  · rw [hkept]
    decide_cbv

def scaffoldPriced : Priced where
  entries := [scaffoldEntry, signboardEntry, steelEntry]
  taxableSubtotal := 1796018700453
  subtotal := 1796018700453
  tax := 179601870045
  grandTotal := 1975620570498
  taxRate := .finite false 1 (-1)

theorem price_scaffoldItems :
    price {} [scaffoldItem, signboardItem, steelItem] = .ok scaffoldPriced := by
  decide +kernel

def scaffoldSubmission : Submission where
  clientCompany := "株式会社見本"
  clientPerson := "佐藤"
  sheet := scaffoldSheet

theorem exists_prepare_scaffoldSubmission :
    ∃ doc, (specimenOffice.prepare scaffoldSubmission).1 = .ok doc ∧
      doc.entries = [scaffoldEntry, signboardEntry, steelEntry] := by
  have hcompany : (Text.strip scaffoldSubmission.clientCompany).isEmpty = false := by
    decide +kernel
  have hperson : (Text.strip scaffoldSubmission.clientPerson).isEmpty = false := by
    decide +kernel
  have hsome : scaffoldPriced.entries.isEmpty = false := rfl
  obtain ⟨draft, hdraft⟩ : ∃ draft, Draft.check .estimate scaffoldSubmission.clientCompany
      scaffoldSubmission.clientPerson scaffoldPriced scaffoldSubmission.remarks
      specimenOffice.today = .ok draft := by
    simp [Draft.check, hcompany, hperson, hsome]
  exact ⟨_, prepare_of_price rfl rfl ofSheet_scaffoldSheet (by simp) price_scaffoldItems hdraft,
    congrArg Priced.entries (Draft.priced_of_check hdraft)⟩

theorem hasFewDigits_of_mem_scaffoldPriced : ∀ x ∈ scaffoldPriced.entries, x.HasFewDigits := by
  have hfew : ∀ x ∈ scaffoldPriced.entries, (x.quantity.isInteger →
      digitCount x.quantity.toRat.floor.natAbs ≤ 15) ∧ digitCount x.unitPrice.natAbs ≤ 15 ∧
      digitCount x.amount.natAbs ≤ 15 := by
    decide +kernel
  exact fun x hx => ⟨fun _ => (hfew x hx).1, (hfew x hx).2.1, (hfew x hx).2.2⟩

/-- Two and a half metres at 3500 yen are 8750 yen. -/
theorem multiplies_out_of_scaffoldSubmission :
    ∃ doc, (specimenOffice.prepare scaffoldSubmission).1 = .ok doc ∧ scaffoldEntry ∈ doc.entries ∧
      (scaffoldEntry.quantityHidden = false ∧ scaffoldEntry.unitPriceHidden = false) ∧
      scaffoldEntry.HasFewDigits ∧ ¬ scaffoldEntry.IsLumpSum ∧
      scaffoldEntry.IsReadAs (5 / 2) 3500 8750 ∧ Decimal.IsPrecise (5 / 2 * (3500 : Int)) ∧
      ⌊(5 / 2 : Rat) * (3500 : Int)⌋ = 8750 := by
  obtain ⟨doc, hdoc, hentries⟩ := exists_prepare_scaffoldSubmission
  have hmem : scaffoldEntry ∈ doc.entries := by simp [hentries]
  have hfew := hasFewDigits_of_mem_scaffoldPriced scaffoldEntry (by simp [scaffoldPriced])
  have hlump : ¬ scaffoldEntry.IsLumpSum := by
    unfold Entry.IsLumpSum
    decide
  have hprecise : Decimal.IsPrecise (5 / 2 * (3500 : Int)) := ⟨8750, 0, by norm_num, by decide⟩
  obtain ⟨q, p, a, hread, -, hproduct⟩ := multiplies_out_of_prepare hdoc hmem ⟨rfl, rfl⟩ hfew
  obtain ⟨rfl, rfl⟩ := hread.eq_of_entry
  have hquantity : leadingFigure? (quantityText scaffoldEntry) = some (5 / 2) := by decide +kernel
  obtain rfl : 5 / 2 = q := Option.some.inj (hquantity.symm.trans hread.quantity)
  exact ⟨doc, hdoc, hmem, ⟨rfl, rfl⟩, hfew, hlump, hread, hprecise,
    hproduct (fun h => absurd h hlump) (.inr hprecise)⟩

/-- Two lump sums are charged where one is shown, and a product of more than 28 digits is rounded up
to the next yen. -/
theorem exists_mismatch_scaffoldSubmission :
    ∃ doc, (specimenOffice.prepare scaffoldSubmission).1 = .ok doc ∧
      (signboardEntry ∈ doc.entries ∧
        (signboardEntry.quantityHidden = false ∧ signboardEntry.unitPriceHidden = false) ∧
        signboardEntry.HasFewDigits ∧ quantityText signboardEntry = "1 式" ∧
        signboardEntry.IsReadAs 1 1000 2000 ∧ ⌊(1 : Rat) * (1000 : Int)⌋ ≠ 2000) ∧
      (steelEntry ∈ doc.entries ∧
        (steelEntry.quantityHidden = false ∧ steelEntry.unitPriceHidden = false) ∧
        steelEntry.HasFewDigits ∧ quantityText steelEntry = "0.48400460150913177 t" ∧
        steelEntry.IsReadAs (48400460150913177 / 10 ^ 17) 3710747137740 1796018689703 ∧
        ⌊(48400460150913177 / 10 ^ 17 : Rat) * (3710747137740 : Int)⌋ ≠ 1796018689703) := by
  obtain ⟨doc, hdoc, hentries⟩ := exists_prepare_scaffoldSubmission
  have hfew := hasFewDigits_of_mem_scaffoldPriced signboardEntry (by simp [scaffoldPriced])
  have hfew' := hasFewDigits_of_mem_scaffoldPriced steelEntry (by simp [scaffoldPriced])
  have hread : signboardEntry.IsReadAs 1 1000 2000 :=
    ⟨Entry.leadingFigure?_of_isLumpSum (.inl rfl), exists_yen hfew.unitPrice,
      exists_yen hfew.amount⟩
  have hread' :
      steelEntry.IsReadAs (48400460150913177 / 10 ^ 17) 3710747137740 1796018689703 :=
    ⟨by decide +kernel, exists_yen hfew'.unitPrice, exists_yen hfew'.amount⟩
  exact ⟨doc, hdoc,
    ⟨by simp [hentries], ⟨rfl, rfl⟩, hfew, rfl, hread, by norm_num⟩,
    ⟨by simp [hentries], ⟨rfl, rfl⟩, hfew', by decide +kernel, hread', by norm_num⟩⟩

end Billing
