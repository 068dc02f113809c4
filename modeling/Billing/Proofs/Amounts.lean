import Billing.Proofs.EnteredLines
import Billing.Proofs.Entries
import Billing.Proofs.Number.Printing

/-!
# Amounts of entered lines

A quantity of at most 15 digits travels as a binary64 number and back without a loss, also through
its text, and its product with a price of at most 13 digits has no more digits than decimal
arithmetic holds. So the amount of a line is the product of the numbers that it writes, rounded down
once.

* `floorProduct_digits`: such a product is rounded down only.
* `amount_of_entered`: the amount of an entered line.
-/

namespace Billing

open Decimal (finite precision minPlace maxExponent)

/-! ## Exact products -/

/-- A product of at most 28 digits, zeros at its end apart, is rounded down only. -/
theorem floorProduct_finite (s t : Bool) {c d m k : Nat} {e f : Int} (hcd : c * d = m * 10 ^ k)
    (hm : m < 10 ^ precision) (hlow : minPlace ≤ e + f)
    (hhigh : e + f + k + precision ≤ maxExponent) :
    floorProduct (finite s c e) (finite t d f) =
      .ok ⌊(finite s c e).toRat * (finite t d f).toRat⌋ := by
  have hlt : c * d < 10 ^ (precision + k) := by
    rw [hcd, Nat.pow_add]
    gcongr
  obtain ⟨c', e', hrounded, -⟩ := Decimal.exists_rounded (s != t) hlt hlow (by omega)
  have hvalue := Decimal.toRat_of_rounded ⟨m, k, hcd, hm⟩ hlow hrounded
  rw [floorProduct, Decimal.mul, hrounded, ← Decimal.toRat_mul_finite, ← hvalue]
  exact Decimal.floor_finite ..

/-- A quantity of at most 15 digits, with zeros behind them, times a price of at most 13 digits. -/
theorem floorProduct_digits {d : Digits} {n k : Nat} (hd : d.coefficient < 10 ^ 15)
    (hn : n < 10 ^ 13) (hlow : -300 ≤ d.exponent) (hhigh : d.exponent < 297) (hk : k < 300) :
    floorProduct (finite false (d.coefficient * 10 ^ k) (d.exponent - k)) (.ofInt n) =
      .ok ⌊d.toRat * n⌋ := by
  have hm : d.coefficient * n < 10 ^ precision := by
    calc
      d.coefficient * n < 10 ^ 15 * 10 ^ 13 := Nat.mul_lt_mul'' hd hn
      _ = 10 ^ precision := by norm_num [precision]
  have hlimits : minPlace = -1000026 ∧ maxExponent = 999999 ∧ precision = 28 := ⟨rfl, rfl, rfl⟩
  have hprice : Decimal.ofInt n = finite false n 0 := by simp [Decimal.ofInt]
  have hquantity : (finite false (d.coefficient * 10 ^ k) (d.exponent - k)).toRat = d.toRat := by
    rw [Decimal.toRat_zeros, Decimal.toRat, mul_assoc]
    exact one_mul _
  rw [hprice, floorProduct_finite false false (Nat.mul_right_comm ..) hm (by omega) (by omega),
    hquantity]
  simp [Decimal.toRat]

/-- A sum of at most 28 digits is taxed at the usual rate. -/
theorem exists_tax {n : Int} (hn : n.natAbs < 10 ^ precision) :
    ∃ amount, tax ({} : Rates).tax n = .ok amount := by
  refine ⟨_, floorProduct_finite (n < 0) false (m := n.natAbs) (k := 0) rfl hn ?_ ?_⟩
  · norm_num [minPlace, Decimal.minExponent, precision]
  · norm_num [maxExponent, precision]

/-! ## Entered lines -/

namespace WrittenNumber

theorem places_le (n : WrittenNumber) : n.places ≤ n.digits.length := by
  rw [digits, List.length_append]
  exact Nat.le_add_left ..

theorem toRat_digits (n : WrittenNumber) :
    Digits.toRat ⟨Nat.ofDigitChars 10 n.digits 0, -n.places⟩ = n.value := by
  rw [Digits.toRat, value, zpow_neg, zpow_natCast, div_eq_mul_inv]

theorem value_nonneg (n : WrittenNumber) : 0 ≤ n.value := by
  unfold value
  positivity

theorem value_le (n : WrittenNumber) : n.value ≤ Nat.ofDigitChars 10 n.digits 0 :=
  div_le_self (Nat.cast_nonneg _) (one_le_pow₀ (by norm_num))

end WrittenNumber

/-- A standard item by itself is priced if its amount is taxed. -/
theorem exists_price {rates : Rates} {x : Item} {e : Entry} {amount : Int}
    (hx : x.category = .standard) (he : standardEntry x = .ok e)
    (htax : tax rates.tax e.amount = .ok amount) : ∃ priced, price rates [x] = .ok priced := by
  have hstandard : priceStandard [x] = .ok [e] := by
    change (standardItems ([] ++ x :: [])).mapM standardEntry = _
    rw [standardItems_append_cons hx]
    exact mapM_eq_ok.2 (.cons he .nil)
  have hderived : priceDerived rates.welfare (total [e]) [x] = .ok [] := by
    change (derivedItems ([] ++ x :: [])).mapM _ = _
    rw [derivedItems_append_cons hx]
    rfl
  have htotal : total ([e] ++ []) = e.amount := by simp [total]
  simp only [price, bind_eq_ok, pure_eq_ok]
  exact ⟨_, [e], hstandard, [], hderived, amount, by rwa [htotal], rfl⟩

/-- Among other items, a standard item has its entry after those of the standard items before it. -/
theorem exists_entries {rates : Rates} {xs ys : List Item} {x : Item} {e : Entry}
    {priced : Priced} (hx : x.category = .standard) (he : standardEntry x = .ok e)
    (h : price rates (xs ++ x :: ys) = .ok priced) :
    ∃ before after, priced.entries = before ++ e :: after ∧
      before.length = (standardItems xs).length ∧
      after.length = (standardItems ys).length + (derivedItems (xs ++ ys)).length := by
  obtain ⟨standard, derived, pricing⟩ := exists_pricing h
  have hstandard := pricing.mapM_standard
  have hderived := pricing.mapM_derived
  rw [standardItems_append_cons hx] at hstandard
  rw [derivedItems_append_cons hx] at hderived
  simp only [List.mapM_append, List.mapM_cons, he, bind_eq_ok, pure_eq_ok] at hstandard
  obtain ⟨before, hbefore, _, ⟨e', he', after, hafter, rfl⟩, rfl⟩ := hstandard
  obtain rfl := Except.ok.inj he'
  refine ⟨before, after ++ derived, by simp [pricing.entries], ?_, ?_⟩
  · exact (mapM_eq_ok.1 hbefore).length_eq.symm
  · rw [List.length_append, (mapM_eq_ok.1 hafter).length_eq, (mapM_eq_ok.1 hderived).length_eq]

namespace EnteredLine

variable {l : EnteredLine}

/-- The entry of the line: its amount is the exact product of the numbers that it writes, rounded
down. -/
def entry (l : EnteredLine) : Entry :=
  { l.item with amount := ⌊l.number.value * Nat.ofDigitChars 10 l.price 0⌋ }

/-- The digits of the quantity are those that the line writes, but for zeros. -/
theorem exists_quantity (hnumber : l.number.digits.length ≤ 15) :
    ∃ x, l.item.quantity = .finite false x ∧ x.significant.toRat = l.number.value ∧
      x.significant.coefficient < 10 ^ 15 ∧ -300 ≤ x.significant.exponent ∧
      x.significant.exponent < 297 := by
  let d : Digits := ⟨Nat.ofDigitChars 10 l.number.digits 0, -l.number.places⟩
  have hcoefficient : d.coefficient < 10 ^ 15 := Text.ofDigitChars_lt_pow l.number.allDigits hnumber
  have hexponent : d.exponent = -l.number.places := rfl
  have hplaces := l.number.places_le
  obtain ⟨x, hx, hvalue, hle, hlow, hhigh⟩ :=
    Binary64.exists_ofDecimal false hcoefficient (by omega) (by omega)
  exact ⟨x, hx, hvalue.trans l.number.toRat_digits, hle.trans_lt hcoefficient, hlow, hhigh⟩

theorem standardEntry_item (hnumber : l.number.digits.length ≤ 15) (hprice : l.price.length ≤ 13) :
    standardEntry l.item = .ok l.entry := by
  obtain ⟨x, hx, hvalue, hcoefficient, hlow, hhigh⟩ := exists_quantity hnumber
  have hamount := floorProduct_digits (k := 0) hcoefficient
    (Text.ofDigitChars_lt_pow l.price_isDigit hprice) hlow hhigh (by omega)
  rw [Nat.pow_zero, Nat.mul_one, Nat.cast_zero, sub_zero, ← Decimal.ofBinary64_finite, ← hx,
    hvalue] at hamount
  exact bind_eq_ok.2 ⟨_, hamount, rfl⟩

/-- The product is the same when the quantity goes through its text. -/
theorem exists_read?_quantity (hnumber : l.number.digits.length ≤ 15)
    (hprice : l.price.length ≤ 13) :
    ∃ q, Decimal.read? l.item.quantity.text.toList = some q ∧
      floorProduct q (.ofInt l.item.unitPrice) = .ok l.entry.amount := by
  obtain ⟨x, hx, hvalue, hcoefficient, hlow, hhigh⟩ := exists_quantity hnumber
  obtain ⟨k, hread, hzeros⟩ := Decimal.exists_read?_text false x
  have hamount := floorProduct_digits (k := k) hcoefficient
    (Text.ofDigitChars_lt_pow l.price_isDigit hprice) hlow hhigh (by omega)
  rw [hvalue] at hamount
  exact ⟨_, by rw [hx, hread], hamount⟩

theorem amount_lt (hnumber : l.number.digits.length ≤ 15) (hprice : l.price.length ≤ 13) :
    l.entry.amount.natAbs < 10 ^ precision := by
  have hvalue := l.number.value_nonneg
  have hvalue' : l.number.value < 10 ^ 15 := by
    refine l.number.value_le.trans_lt ?_
    exact_mod_cast Text.ofDigitChars_lt_pow l.number.allDigits hnumber
  have hprice' : (Nat.ofDigitChars 10 l.price 0 : Rat) < 10 ^ 13 := by
    exact_mod_cast Text.ofDigitChars_lt_pow l.price_isDigit hprice
  have hlow : 0 ≤ l.entry.amount := Int.floor_nonneg.2 (by positivity)
  have hhigh : l.entry.amount < (10 ^ 28 : Nat) := by
    refine Int.floor_lt.2 ?_
    calc
      l.number.value * Nat.ofDigitChars 10 l.price 0 < 10 ^ 15 * 10 ^ 13 := by gcongr
      _ = ((10 ^ 28 : Nat) : Int) := by norm_num
  rw [precision]
  omega

end EnteredLine

/-- The amount of a line is the exact product of the numbers that it writes, rounded down. -/
theorem amount_of_entered (l : EnteredLine) (hnumber : l.number.digits.length ≤ 15)
    (hprice : l.price.length ≤ 13) :
    Item.ofSheet l.text = .ok [l.item] ∧ l.item.category = .standard ∧
      (∃ q, Decimal.read? l.item.quantity.text.toList = some q ∧
        floorProduct q (.ofInt l.item.unitPrice) = .ok l.entry.amount) ∧
      (∃ priced, price {} [l.item] = .ok priced) ∧
      ∀ rates xs ys priced, price rates (xs ++ l.item :: ys) = .ok priced →
        ∃ before after, priced.entries = before ++ l.entry :: after ∧
          before.length = (standardItems xs).length ∧
          after.length = (standardItems ys).length + (derivedItems (xs ++ ys)).length := by
  have hentry := EnteredLine.standardEntry_item hnumber hprice
  obtain ⟨amount, htax⟩ := exists_tax (EnteredLine.amount_lt hnumber hprice)
  exact ⟨l.ofSheet_text (hprice.trans (by decide)), rfl,
    EnteredLine.exists_read?_quantity hnumber hprice, exists_price rfl hentry htax,
    fun _ _ _ _ => exists_entries rfl hentry⟩

/-- The product of the binary64 numbers nearest to 0.29 and 100 is less than 29. -/
def specimenLine : EnteredLine where
  name := ['塗', '装']
  number :=
    { whole := []
      fraction := some ['2', '9']
      allDigits := List.all_eq_true.1 (by decide)
      ne_nil := by decide }
  unit := ['㎡']
  price := ['1', '0', '0']
  name_not_blank := fun h => absurd (h '塗' List.mem_cons_self) (by decide)
  name_isField := by decide
  name_not_levy := by decide
  name_not_surcharge := by decide
  unit_isField := by decide
  unit_head := by
    rintro _ ⟨⟩
    decide
  price_isDigit := List.all_eq_true.1 (by decide)

theorem amount_of_specimenLine :
    specimenLine.number.digits.length ≤ 15 ∧ specimenLine.price.length ≤ 13 ∧
      Item.ofSheet "塗装, .29㎡, 100" = .ok [specimenLine.item] ∧
      ∃ priced, price {} [specimenLine.item] = .ok priced ∧
        priced.entries = [specimenLine.entry] ∧ specimenLine.entry.amount = 29 := by
  have hnumber : specimenLine.number.digits.length ≤ 15 := by decide
  have hprice : specimenLine.price.length ≤ 13 := by decide
  obtain ⟨hsheet, -, -, ⟨priced, hpriced⟩, hentries⟩ :=
    amount_of_entered specimenLine hnumber hprice
  have htext : specimenLine.text = "塗装, .29㎡, 100" := by decide
  obtain ⟨before, after, hentries, hbefore, hafter⟩ := hentries {} [] [] priced hpriced
  refine ⟨hnumber, hprice, htext ▸ hsheet, priced, hpriced, ?_, ?_⟩
  · obtain rfl := List.length_eq_zero_iff.1 hbefore
    obtain rfl := List.length_eq_zero_iff.1 hafter
    exact hentries
  · have hdigits : Nat.ofDigitChars 10 specimenLine.number.digits 0 = 29 := by decide
    have hplaces : specimenLine.number.places = 2 := by decide
    have hunitPrice : Nat.ofDigitChars 10 specimenLine.price 0 = 100 := by decide
    norm_num [EnteredLine.entry, WrittenNumber.value, hdigits, hplaces, hunitPrice]

end Billing
