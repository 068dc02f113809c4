import Billing.Proofs.RoundedAmounts

/-!
# Prices that are found

Decimal numbers have room for far more digits than quantities and prices can have, so pricing stops
for nothing but an infinite quantity: of a standard item, or of a surcharge. What is bounded is the
size of every number on the way (`Decimal.IsSized`), and every step makes the bound a fixed number
of times larger.

* `Decimal.IsSized.exists_floorProduct`: a product of bounded numbers is found, and bounded.
* `price_cases`: prices are found, or a quantity is infinite.
* `exists_finite_of_price`: and not both.
-/

namespace Billing

open Decimal (finite precision minPlace maxExponent nearest)

/-! ## Bounded numbers -/

namespace Decimal

/-- A finite number with at most `n` digits, and with an exponent of at most `n` either way. -/
def IsSized (n : Nat) (x : Decimal) : Prop :=
  ∃ s c e, x = finite s c e ∧ c < 10 ^ n ∧ -(n : Int) ≤ e ∧ e ≤ n

theorem IsSized.mono {n m : Nat} {x : Decimal} (h : x.IsSized n) (hnm : n ≤ m) : x.IsSized m := by
  obtain ⟨s, c, e, rfl, hc, hlow, hhigh⟩ := h
  exact ⟨s, c, e, rfl, hc.trans_le (Nat.pow_le_pow_right (by omega) hnm), by omega, by omega⟩

theorem isSized_ofInt {a : Int} {n : Nat} (h : a.natAbs < 10 ^ n) : (ofInt a).IsSized n :=
  ⟨_, _, _, rfl, h, by omega, by omega⟩

theorem isSized_ofBinary64 (s : Bool) (m : Magnitude) :
    (ofBinary64 (.finite s m)).IsSized 1474 := by
  obtain ⟨hlow, hhigh, hcoefficient⟩ := m.significant_bounds
  rw [ofBinary64_finite]
  exact ⟨_, _, _, rfl, hcoefficient, by omega, by omega⟩

/-- A product is below the power of ten of all digits and exponents together. -/
theorem abs_mul_lt {s t : Bool} {c d n : Nat} {e f : Int} {k : Nat} (hcd : c * d < 10 ^ n)
    (hk : n + (e + f) ≤ k) : |(finite s c e).toRat * (finite t d f).toRat| < 10 ^ k := by
  have hunit : (0 : Rat) < 10 ^ (e + f) := by positivity
  have hcd : ((c * d : Nat) : Rat) < 10 ^ n := by exact_mod_cast hcd
  rw [← toRat_mul_finite, toRat, abs_mul, abs_mul, abs_of_pos hunit]
  have hsign : |(if s != t then -1 else 1 : Rat)| = 1 := by
    split <;> simp
  rw [hsign, one_mul, abs_of_nonneg (by positivity)]
  calc
    _ < (10 : Rat) ^ n * 10 ^ (e + f) := by gcongr
    _ = 10 ^ (n + (e + f)) := by rw [zpow_add₀ (by norm_num) (n : Int), zpow_natCast]
    _ ≤ 10 ^ (k : Int) := zpow_le_zpow_right₀ (by norm_num) hk
    _ = 10 ^ k := zpow_natCast ..

theorem natAbs_floor_le {x : Rat} {k : Nat} (h : |x| ≤ 10 ^ k) : ⌊x⌋.natAbs ≤ 10 ^ k := by
  obtain ⟨hlow, hhigh⟩ := abs_le.1 h
  have hlow : -(10 ^ k : Int) ≤ ⌊x⌋ := Int.le_floor.2 (by exact_mod_cast hlow)
  have hhigh : ⌊x⌋ ≤ (10 ^ k : Int) := by exact_mod_cast (Int.floor_le x).trans hhigh
  have : (⌊x⌋.natAbs : Int) ≤ (10 ^ k : Nat) := by
    push_cast
    rw [abs_le]
    exact ⟨hlow, hhigh⟩
  exact_mod_cast this

variable {x y : Decimal} {n m : Nat}

/-- The product of bounded numbers, rounded down, is found and bounded. -/
theorem IsSized.exists_floorProduct (hx : x.IsSized n) (hy : y.IsSized m) (hnm : n + m ≤ 450000) :
    ∃ a, floorProduct x y = .ok a ∧ a.natAbs ≤ 10 ^ (2 * (n + m)) := by
  obtain ⟨s, c, e, rfl, hc, helow, hehigh⟩ := hx
  obtain ⟨t, d, f, rfl, hd, hflow, hfhigh⟩ := hy
  have hcd : c * d < 10 ^ (n + m) := by
    rw [Nat.pow_add]
    exact Nat.mul_lt_mul'' hc hd
  have hlimits : minPlace = -1000026 ∧ maxExponent = 999999 := ⟨rfl, rfl⟩
  obtain ⟨c', e', hrounded, -⟩ := exists_rounded (s != t) (e := e + f) hcd (by omega) (by omega)
  have hproduct : floorProduct (finite s c e) (finite t d f) =
      .ok ⌊(finite (s != t) c' e').toRat⌋ := by
    rw [floorProduct, mul, hrounded]
    exact floor_finite ..
  refine ⟨_, hproduct, ?_⟩
  rw [floorProduct_eq_floor_nearest (by omega) hproduct]
  refine natAbs_floor_le ?_
  exact_mod_cast abs_nearest_le (n := (2 * (n + m) : Nat))
    (by exact_mod_cast abs_mul_lt hcd (by push_cast; omega))

/-- So is a percentage. -/
theorem IsSized.exists_hundredth (hx : x.IsSized n) (hy : y.IsSized m) (hnm : n + m ≤ 450000) :
    ∃ z a, x.mul y = .ok z ∧ (z.hundredth >>= floor) = .ok a ∧
      a.natAbs ≤ 10 ^ (2 * (n + m)) := by
  obtain ⟨s, c, e, rfl, hc, helow, hehigh⟩ := hx
  obtain ⟨t, d, f, rfl, hd, hflow, hfhigh⟩ := hy
  have hcd : c * d < 10 ^ (n + m) := by
    rw [Nat.pow_add]
    exact Nat.mul_lt_mul'' hc hd
  have hlimits : minPlace = -1000026 ∧ maxExponent = 999999 ∧ precision = 28 := ⟨rfl, rfl, rfl⟩
  obtain ⟨c', e', hrounded, hc', hlow, hhigh⟩ :=
    exists_rounded (s != t) (e := e + f) hcd (by omega) (by omega)
  obtain ⟨c'', e'', hhundredth, -⟩ :=
    exists_rounded (s != t) (e := e' - 2) hc' (by omega) (by omega)
  have hfloor : (hundredth (finite (s != t) c' e') >>= floor) =
      .ok ⌊(finite (s != t) c'' e'').toRat⌋ := by
    rw [hundredth, hhundredth]
    exact floor_finite ..
  refine ⟨_, _, hrounded, hfloor, ?_⟩
  rw [floor_hundredth_eq (by omega) hrounded hfloor]
  have hnearest := abs_nearest_le (n := (2 * (n + m) : Nat))
    (x := (finite s c e).toRat * (finite t d f).toRat)
    (by exact_mod_cast abs_mul_lt hcd (by push_cast; omega))
  refine natAbs_floor_le ?_
  rw [abs_div, abs_of_pos (by norm_num : (0 : Rat) < 100)]
  refine (div_le_self (abs_nonneg _) (by norm_num)).trans ?_
  exact_mod_cast hnearest

end Decimal

/-! ## Totals -/

theorem natAbs_total_le {entries : List Entry} {k : Nat} (h : ∀ e ∈ entries, e.amount.natAbs ≤ k) :
    (total entries).natAbs ≤ entries.length * k := by
  rw [total_eq_sum]
  induction entries with
  | nil => simp
  | cons e entries ih =>
    obtain ⟨he, hentries⟩ := List.forall_mem_cons.1 h
    rw [List.map_cons, List.sum_cons, List.length_cons, Nat.add_mul, Nat.one_mul]
    have := Int.natAbs_add_le e.amount (entries.map (·.amount)).sum
    have := ih hentries
    omega

/-- The sum of bounded amounts is bounded, if not too many are added. -/
theorem isSized_total {entries : List Entry} {n m : Nat}
    (h : ∀ e ∈ entries, e.amount.natAbs ≤ 10 ^ n) (hlength : entries.length ≤ 10 ^ m) :
    (Decimal.ofInt (total entries)).IsSized (n + m + 1) := by
  refine Decimal.isSized_ofInt ?_
  calc
    (total entries).natAbs ≤ entries.length * 10 ^ n := natAbs_total_le h
    _ ≤ 10 ^ m * 10 ^ n := by gcongr
    _ = 10 ^ (n + m) := by rw [← Nat.pow_add, Nat.add_comm]
    _ < 10 ^ (n + m + 1) := Nat.pow_lt_pow_right (by norm_num) (Nat.lt_succ_self _)

/-! ## Infinite quantities -/

/-- Whether a computation stopped at an infinite quantity. -/
def StopsAtInfinity {β : Type} (x : Except Fault β) : Prop :=
  x = .error .infinite ∨ x = .error .invalidOperation

theorem StopsAtInfinity.bind {β γ : Type} {x : Except Fault β} (h : StopsAtInfinity x)
    (f : β → Except Fault γ) : StopsAtInfinity (x >>= f) := by
  obtain rfl | rfl := h
  · exact .inl rfl
  · exact .inr rfl

/-- Steps that succeed with `P`, or stop at an infinite quantity because of `Q`, do so together. -/
theorem mapM_cases {β γ : Type} {f : β → Except Fault γ} {P : γ → Prop} {Q : β → Prop}
    {xs : List β}
    (h : ∀ x ∈ xs, (∃ y, f x = .ok y ∧ P y) ∨ Q x ∧ StopsAtInfinity (f x)) :
    (∃ ys, xs.mapM f = .ok ys ∧ ys.length = xs.length ∧ ∀ y ∈ ys, P y) ∨
      (∃ x ∈ xs, Q x) ∧ StopsAtInfinity (xs.mapM f) := by
  induction xs with
  | nil => exact .inl ⟨[], rfl, rfl, by simp⟩
  | cons x xs ih =>
    obtain ⟨hx, hxs⟩ := List.forall_mem_cons.1 h
    rw [List.mapM_cons]
    obtain ⟨y, hy, hP⟩ | ⟨hQ, hstops⟩ := hx
    · rw [hy]
      obtain ⟨ys, hys, hlength, hall⟩ | ⟨⟨x', hx', hQ⟩, hstops⟩ := ih hxs
      · rw [hys]
        exact .inl ⟨y :: ys, rfl, by rw [List.length_cons, hlength, List.length_cons],
          List.forall_mem_cons.2 ⟨hP, hall⟩⟩
      · exact .inr ⟨⟨x', List.mem_cons_of_mem _ hx', hQ⟩, hstops.bind _⟩
    · exact .inr ⟨⟨x, List.mem_cons_self, hQ⟩, hstops.bind _⟩

theorem ofInt_mul_infinity (a : Int) (s : Bool) :
    (Decimal.ofInt a).mul (.infinity s) = .error .invalidOperation ∨
      ∃ t, (Decimal.ofInt a).mul (.infinity s) = .ok (.infinity t) := by
  rw [Decimal.ofInt, Decimal.mul]
  split
  · exact .inl rfl
  · exact .inr ⟨_, rfl⟩

theorem infinity_mul_ofInt (a : Int) (s : Bool) :
    (Decimal.infinity s).mul (.ofInt a) = .error .invalidOperation ∨
      ∃ t, (Decimal.infinity s).mul (.ofInt a) = .ok (.infinity t) := by
  rw [Decimal.ofInt, Decimal.mul]
  split
  · exact .inl rfl
  · exact .inr ⟨_, rfl⟩

theorem stopsAtInfinity_standardEntry {x : Item} {s : Bool} (hx : x.quantity = .infinity s) :
    StopsAtInfinity (standardEntry x) := by
  refine StopsAtInfinity.bind ?_ _
  rw [floorProduct, hx, Decimal.ofBinary64]
  obtain h | ⟨t, h⟩ := infinity_mul_ofInt x.unitPrice s
  · rw [h]
    exact .inr rfl
  · rw [h]
    exact .inl rfl

theorem stopsAtInfinity_surchargeEntry {x : Item} {s : Bool} (subtotal : Int)
    (hx : x.quantity = .infinity s) : StopsAtInfinity (surchargeEntry subtotal x) := by
  rw [surchargeEntry, hx, Decimal.ofBinary64]
  obtain h | ⟨t, h⟩ := ofInt_mul_infinity subtotal s
  · rw [h]
    exact .inr rfl
  · rw [h]
    exact .inl rfl

/-! ## Prices -/

/-- An item whose quantity is a number, of which a price has at most `n` digits. -/
structure Item.IsSized (n : Nat) (x : Item) : Prop where
  unitPrice : x.unitPrice.natAbs < 10 ^ n
  quantity : x.quantity ≠ .nan

theorem Item.IsSized.quantity_cases {n : Nat} {x : Item} (h : x.IsSized n) :
    (∃ s m, x.quantity = .finite s m) ∨ ∃ s, x.quantity = .infinity s := by
  cases hq : x.quantity with
  | finite s m => exact .inl ⟨s, m, rfl⟩
  | infinity s => exact .inr ⟨s, rfl⟩
  | nan => exact absurd hq h.quantity

section

variable {n : Nat} {rates : Rates} {items : List Item} {x : Item}

theorem standardEntry_cases (hlow : 1474 ≤ n) (hhigh : n ≤ 30000) (hx : x.IsSized n) :
    (∃ e, standardEntry x = .ok e ∧ e.amount.natAbs ≤ 10 ^ (4 * n)) ∨
      (∃ s, x.quantity = .infinity s) ∧ StopsAtInfinity (standardEntry x) := by
  obtain ⟨s, m, hq⟩ | ⟨s, hq⟩ := hx.quantity_cases
  · obtain ⟨a, ha, hle⟩ := ((Decimal.isSized_ofBinary64 s m).mono hlow).exists_floorProduct
      (Decimal.isSized_ofInt hx.unitPrice) (by omega)
    refine .inl ⟨{ x with amount := a }, ?_, ?_⟩
    · rw [standardEntry, hq, ha]
      rfl
    · rwa [show 4 * n = 2 * (n + n) by omega]
  · exact .inr ⟨⟨s, hq⟩, stopsAtInfinity_standardEntry hq⟩

theorem derivedEntry_cases (hlow : 1474 ≤ n) (hhigh : n ≤ 30000)
    (hwelfare : rates.welfare.IsSized n) {subtotal : Int}
    (hsubtotal : (Decimal.ofInt subtotal).IsSized (4 * n + n + 1)) (hx : x.IsSized n)
    (hderived : x.category.isDerived) :
    (∃ e, derivedEntry rates.welfare subtotal x = .ok e ∧
      e.amount.natAbs ≤ 10 ^ (12 * n + 2)) ∨
      (x.category ≠ .welfareLevy ∧ ∃ s, x.quantity = .infinity s) ∧
        StopsAtInfinity (derivedEntry rates.welfare subtotal x) := by
  have hpower : 2 * (4 * n + n + 1 + n) = 12 * n + 2 := by omega
  cases hc : x.category with
  | standard => simp [hc, Category.isDerived] at hderived
  | percentageSurcharge =>
    simp only [derivedEntry, hc]
    obtain ⟨s, m, hq⟩ | ⟨s, hq⟩ := hx.quantity_cases
    · obtain ⟨z, a, hz, ha, hle⟩ := hsubtotal.exists_hundredth
        ((Decimal.isSized_ofBinary64 s m).mono hlow) (by omega)
      rw [hpower] at hle
      refine .inl ⟨{ x with unitPrice := 0, amount := a }, ?_, hle⟩
      simp only [surchargeEntry, hq, bind_eq_ok, pure_eq_ok]
      obtain ⟨y, hy, hfloor⟩ := bind_eq_ok.1 ha
      exact ⟨z, hz, a, ⟨y, hy, hfloor⟩, rfl⟩
    · exact .inr ⟨⟨by simp, s, hq⟩, stopsAtInfinity_surchargeEntry subtotal hq⟩
  | welfareLevy =>
    simp only [derivedEntry, hc]
    obtain ⟨a, ha, hle⟩ := hsubtotal.exists_floorProduct hwelfare (by omega)
    rw [hpower] at hle
    refine .inl ⟨{ x with unitPrice := a, quantity := 1, unit := lumpSumUnit, amount := a }, ?_,
      hle⟩
    simp only [levyEntry, bind_eq_ok, pure_eq_ok]
    exact ⟨a, ha, rfl⟩

/-- Bounded items are priced, or the quantity of one of them that is asked for is infinite. -/
theorem price_cases (hlow : 1474 ≤ n) (hhigh : n ≤ 30000) (htax : rates.tax.IsSized n)
    (hwelfare : rates.welfare.IsSized n) (hitems : ∀ x ∈ items, x.IsSized n)
    (hlength : items.length ≤ 10 ^ n) :
    (∃ priced, price rates items = .ok priced) ∨
      (∃ x ∈ items, x.category ≠ .welfareLevy ∧ ∃ s, x.quantity = .infinity s) ∧
        StopsAtInfinity (price rates items) := by
  have hlengths := List.length_eq_length_filter_add (l := items) (·.category.isDerived)
  rw [price]
  obtain ⟨standard, hstandard, hcount, hamounts⟩ | ⟨⟨x, hx, hinfinite⟩, hstops⟩ :=
    mapM_cases fun x (hx : x ∈ standardItems items) =>
      standardEntry_cases hlow hhigh (hitems x (List.mem_of_mem_filter hx))
  swap
  · refine .inr ⟨⟨x, List.mem_of_mem_filter hx, ?_, hinfinite⟩, hstops.bind _⟩
    rw [category_of_mem_standardItems hx]
    exact Category.noConfusion
  have hsubtotal : (Decimal.ofInt (total standard)).IsSized (4 * n + n + 1) :=
    isSized_total hamounts (by rw [hcount, standardItems]; omega)
  obtain ⟨derived, hderived, hcount', hamounts'⟩ | ⟨⟨x, hx, hinfinite⟩, hstops⟩ :=
    mapM_cases fun x (hx : x ∈ derivedItems items) =>
      derivedEntry_cases hlow hhigh hwelfare hsubtotal (hitems x (List.mem_of_mem_filter hx))
        (isDerived_of_mem_derivedItems hx)
  swap
  · refine .inr ⟨⟨x, List.mem_of_mem_filter hx, hinfinite⟩, ?_⟩
    rw [show priceStandard items = .ok standard from hstandard]
    exact hstops.bind _
  have hentries : ∀ e ∈ standard ++ derived, e.amount.natAbs ≤ 10 ^ (12 * n + 2) := by
    refine List.forall_mem_append.2 ⟨fun e he => (hamounts e he).trans ?_, hamounts'⟩
    exact Nat.pow_le_pow_right (by omega) (by omega)
  have htotal : (Decimal.ofInt (total (standard ++ derived))).IsSized (12 * n + 2 + n + 1) :=
    isSized_total hentries (by
      rw [List.length_append, hcount, hcount', standardItems, derivedItems]
      omega)
  obtain ⟨a, ha, -⟩ := htotal.exists_floorProduct htax (by omega)
  rw [show priceStandard items = .ok standard from hstandard]
  simp only [bind_eq_ok, pure_eq_ok]
  exact .inl ⟨_, standard, rfl, derived, hderived, a, ha, rfl⟩

/-- Prices are not found for an infinite quantity. -/
theorem exists_finite_of_price {priced : Priced} (h : price rates items = .ok priced)
    (hx : x ∈ items) (hcategory : x.category ≠ .welfareLevy) : ∃ s m, x.quantity = .finite s m := by
  obtain ⟨standard, derived, pricing⟩ := exists_pricing h
  cases hc : x.category with
  | standard =>
    obtain ⟨e, he⟩ := exists_of_mapM_eq_ok pricing.mapM_standard
      (List.mem_filter.2 ⟨hx, by simp [hc, Category.isDerived]⟩)
    exact (Item.amount_of_standardEntry 0 hc he).1
  | percentageSurcharge =>
    obtain ⟨e, he⟩ := exists_of_mapM_eq_ok pricing.mapM_derived
      (List.mem_filter.2 ⟨hx, by simp [hc, Category.isDerived]⟩)
    simp only [derivedEntry, hc] at he
    exact (Item.amount_of_surchargeEntry hc he).1
  | welfareLevy => exact absurd hc hcategory

end

end Billing
