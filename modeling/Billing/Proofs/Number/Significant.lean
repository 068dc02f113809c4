import Billing.Proofs.Number.Rounding
import Mathlib.Tactic.FieldSimp
import Mathlib.Tactic.LinearCombination

/-!
# Rounding to significant digits

A product is the exact one, rounded once to 28 significant digits (`Decimal.nearest`). Exponents
that are too large are refused, and none is too small for products of the sizes that occur here.

* `Decimal.toRat_of_mul_eq_nearest`: what a product is.
* `Decimal.nearest_eq_self`: numbers of 28 digits stay as they are.
* `Decimal.abs_nearest_sub_le`, `Decimal.abs_nearest_le`: how far others move.
-/

namespace Billing

namespace Number

/-- A quotient of any representation of a number is rounded to the same integer. -/
theorem roundDiv_num_den {q : Rat} {a b : Nat} (hb : 0 < b) (h : (a / b : Rat) = q) :
    roundDiv q.num.natAbs q.den = roundDiv a b := by
  refine roundDiv_congr q.den_pos hb ?_
  have hq : 0 ≤ q := by
    rw [← h]
    positivity
  have hnum : ((q.num.natAbs : Nat) : Rat) = (q.num : Rat) := by
    rw [Nat.cast_natAbs, abs_of_nonneg (Rat.num_nonneg.2 hq)]
  rw [hnum, Rat.num_div_den, h]

end Number

namespace Decimal

/-- The place of the last of the 28 significant digits of a number. -/
def lastPlace (x : Rat) : Int := Int.log 10 |x| + 1 - precision

/-- The size of a number in units of its last place. -/
def units (x : Rat) : Rat := |x| * 10 ^ (-lastPlace x)

/-- The number of 28 significant digits that is nearest to a number; a half goes to the even last
digit. -/
def nearest (x : Rat) : Rat :=
  (if x < 0 then -1 else 1) *
    (Number.roundDiv (units x).num.natAbs (units x).den * 10 ^ lastPlace x)

theorem nearest_zero : nearest 0 = 0 := by
  simp [nearest, units, Number.roundDiv]

theorem sign_mul_abs (x : Rat) : (if x < 0 then -1 else 1) * |x| = x := by
  split
  · rename_i h
    rw [abs_of_neg h, neg_one_mul, neg_neg]
  · rename_i h
    rw [abs_of_nonneg (not_lt.1 h), one_mul]

theorem abs_toRat_finite (s : Bool) (c : Nat) (e : Int) :
    |(finite s c e).toRat| = c * 10 ^ e := by
  have hnonneg : (0 : Rat) ≤ c * 10 ^ e := by positivity
  cases s
  · simp [toRat, abs_of_nonneg hnonneg]
  · simp [toRat, abs_of_nonneg hnonneg]

theorem log_toRat_finite (s : Bool) {c : Nat} (hc : 0 < c) (e : Int) :
    Int.log 10 |(finite s c e).toRat| = Number.digitCount c - 1 + e := by
  obtain ⟨hpos, hlow, hhigh⟩ := Number.countsDigits_digitCount c hc
  have hunit : (0 : Rat) < 10 ^ e := by positivity
  have hc0 : (0 : Rat) < c := by exact_mod_cast hc
  rw [abs_toRat_finite]
  generalize Number.digitCount c = n at hpos hlow hhigh ⊢
  obtain ⟨n, rfl⟩ : ∃ i, n = i + 1 := ⟨n - 1, by omega⟩
  have hlow : (10 : Rat) ^ n ≤ c := by exact_mod_cast hlow
  have hhigh : (c : Rat) < 10 ^ (n + 1) := by exact_mod_cast hhigh
  refine Number.eq_log (by omega) (by positivity) ?_ ?_
  · rw [Nat.cast_ofNat, zpow_add₀ (by norm_num), Nat.cast_add_one, add_sub_cancel_right,
      zpow_natCast]
    gcongr
  · have : (n + 1 : Nat) - 1 + e + 1 = (n + 1 : Nat) + e := by omega
    rw [Nat.cast_ofNat, this, zpow_add₀ (by norm_num), zpow_natCast]
    gcongr

theorem sign_toRat_finite (s : Bool) {c : Nat} (hc : 0 < c) (e : Int) :
    (if (finite s c e).toRat < 0 then -1 else 1 : Rat) = if s then -1 else 1 := by
  have hc0 : (0 : Rat) < c := by exact_mod_cast hc
  have hten : (0 : Rat) < 10 ^ e := by positivity
  cases s
  · have : ¬ (finite false c e).toRat < 0 := by
      simp only [toRat, Bool.false_eq_true, if_false, one_mul, not_lt]
      positivity
    rw [if_neg this]
    rfl
  · have : (finite true c e).toRat < 0 := by
      simp only [toRat, if_true, neg_mul, neg_lt_zero]
      positivity
    rw [if_pos this]
    rfl

/-- Counted in units of a higher place, a coefficient has fewer digits. -/
theorem div_eq_units (c j : Nat) (e : Int) :
    (c / (10 ^ j : Nat) : Rat) = c * 10 ^ e * 10 ^ (-(e + j) : Int) := by
  rw [neg_add, zpow_add₀ (by norm_num), ← mul_assoc, mul_assoc (c : Rat),
    ← zpow_add₀ (by norm_num), add_neg_cancel, zpow_zero, mul_one, zpow_neg, zpow_natCast,
    ← div_eq_mul_inv]
  push_cast
  rfl

/-- Counted in units of a lower place, a coefficient has zeros at its end. -/
theorem mul_eq_units (c j : Nat) (e : Int) :
    ((c * 10 ^ j : Nat) / (1 : Nat) : Rat) = c * 10 ^ e * 10 ^ (-(e - j) : Int) := by
  rw [neg_sub, mul_assoc, ← zpow_add₀ (by norm_num), add_sub_cancel, zpow_natCast]
  push_cast
  ring

/-- The nearest number has the first digits of the coefficient. -/
theorem nearest_toRat (s : Bool) (c : Nat) (e : Int) :
    nearest (finite s c e).toRat = (if s then -1 else 1) *
      (leading c * 10 ^ (e + (Number.digitCount c - precision : Nat))) := by
  obtain rfl | hc := Nat.eq_zero_or_pos c
  · have hzero : leading 0 = 0 := by decide
    have hvalue : (finite s 0 e).toRat = 0 := by simp [toRat]
    rw [hvalue, nearest_zero, hzero]
    simp
  have hplace : lastPlace (finite s c e).toRat = e + Number.digitCount c - precision := by
    rw [lastPlace, log_toRat_finite s hc]
    omega
  rw [nearest, sign_toRat_finite s hc, units, hplace, abs_toRat_finite, leading]
  congr 1
  generalize Number.digitCount c = n
  obtain hn | hn := Nat.le_total precision n
  · -- digits are dropped
    obtain ⟨j, rfl⟩ := Nat.exists_eq_add_of_le hn
    have hj : e + (precision + j : Nat) - precision = e + j := by omega
    rw [hj, Nat.add_sub_cancel_left,
      Number.roundDiv_num_den (by positivity) (div_eq_units c j e)]
  · -- zeros are added
    obtain ⟨j, hj⟩ := Nat.exists_eq_add_of_le hn
    have hplace : e + n - precision = e - j := by omega
    rw [hplace, Number.roundDiv_num_den one_pos (mul_eq_units c j e), Number.roundDiv_one,
      Nat.sub_eq_zero_of_le hn, Nat.pow_zero, Number.roundDiv_one, Nat.cast_zero, add_zero,
      zpow_sub₀ (by norm_num), zpow_natCast]
    push_cast
    field_simp

/-- A result is the nearest number, if its exponent can be held. -/
theorem toRat_of_rounded_eq_nearest {negative : Bool} {c : Nat} {e : Int} {x : Decimal}
    (he : minPlace ≤ e) (h : rounded negative c e = .ok x) :
    x.toRat = nearest (finite negative c e).toRat := by
  rw [toRat_of_rounded_eq_leading he h, nearest_toRat]

theorem toRat_of_mul_eq_nearest {s t : Bool} {c d : Nat} {e f : Int} {z : Decimal}
    (he : minPlace ≤ e + f) (h : (finite s c e).mul (finite t d f) = .ok z) :
    z.toRat = nearest ((finite s c e).toRat * (finite t d f).toRat) := by
  rw [toRat_of_rounded_eq_nearest he h, toRat_mul_finite]

theorem eq_finite_of_rounded {negative : Bool} {c : Nat} {e : Int} {x : Decimal}
    (he : minPlace ≤ e) (h : rounded negative c e = .ok x) :
    ∃ c' e', x = finite negative c' e' ∧ c' < 10 ^ precision ∧ min e maxExponent ≤ e' := by
  obtain rfl | hpos := Nat.eq_zero_or_pos c
  · rw [rounded, if_pos rfl] at h
    obtain rfl := Except.ok.inj h
    exact ⟨0, _, rfl, by positivity, by omega⟩
  · obtain ⟨c', e', -, hlt, hexponent, -, hrounded⟩ := exists_rounded_eq negative hpos.ne' he
    rw [hrounded] at h
    split at h
    · cases h
    · obtain rfl := Except.ok.inj h
      exact ⟨c', e', rfl, hlt, by omega⟩

theorem notANumber_ne_finite (x y : Decimal) (negative : Bool) (c : Nat) (e : Int) :
    notANumber x y ≠ .ok (finite negative c e) := by
  unfold notANumber
  split <;> simp

/-- Only finite numbers have a finite product. -/
theorem exists_of_mul_eq_finite {x y : Decimal} {negative : Bool} {c : Nat} {e : Int}
    (h : x.mul y = .ok (finite negative c e)) :
    (∃ s c e, x = finite s c e) ∧ ∃ s c e, y = finite s c e := by
  unfold mul at h
  split at h
  · exact ⟨⟨_, _, _, rfl⟩, _, _, _, rfl⟩
  · cases h
  · split at h <;> cases h
  · split at h <;> cases h
  · exact absurd h (notANumber_ne_finite _ _ _ _ _)

theorem exists_of_hundredth_eq_finite {x : Decimal} {negative : Bool} {c : Nat} {e : Int}
    (h : x.hundredth = .ok (finite negative c e)) : ∃ s c e, x = finite s c e := by
  cases x with
  | finite s c e => exact ⟨s, c, e, rfl⟩
  | infinity => cases h
  | nan => exact absurd h (notANumber_ne_finite _ _ _ _ _)

theorem exists_of_floor {x : Decimal} {n : Int} (h : x.floor = .ok n) :
    ∃ s c e, x = finite s c e := by
  cases x with
  | finite s c e => exact ⟨s, c, e, rfl⟩
  | infinity | nan => cases h

/-- A hundredth of a result is exact. -/
theorem toRat_hundredth {negative : Bool} {c : Nat} {e : Int} {y : Decimal}
    (hc : c < 10 ^ precision) (he : minPlace + 2 ≤ e)
    (h : (finite negative c e).hundredth = .ok y) :
    y.toRat = (finite negative c e).toRat / 100 := by
  have hshort : IsShort c := ⟨c, 0, by simp, hc⟩
  have hten : (10 : Rat) ^ (2 : Int) = 100 := by norm_num
  rw [toRat_of_rounded hshort (by omega) h, toRat, toRat, zpow_sub₀ (by norm_num), hten,
    mul_div_assoc]

/-! ## How far numbers move -/

/-- A number of 28 digits, zeros at its end apart, stays as it is. -/
theorem nearest_eq_self {m : Int} (hm : m.natAbs < 10 ^ precision) (k : Int) :
    nearest (m * 10 ^ k) = m * 10 ^ k := by
  have hvalue : (finite (m < 0) m.natAbs k).toRat = m * 10 ^ k := by
    simp only [toRat, decide_eq_true_eq, signed_natAbs]
  have hcount := (Number.digitCount_le_iff (by simp [precision])).2 hm
  rw [← hvalue, nearest_toRat, leading, Nat.sub_eq_zero_of_le hcount, Nat.pow_zero,
    Number.roundDiv_one, Nat.cast_zero, add_zero, toRat, mul_assoc]

theorem units_nonneg (x : Rat) : 0 ≤ units x := by
  unfold units
  positivity

theorem units_mul (x : Rat) : units x * 10 ^ lastPlace x = |x| := by
  rw [units, mul_assoc, ← zpow_add₀ (by norm_num), neg_add_cancel, zpow_zero, mul_one]

theorem natAbs_num_div_den_units (x : Rat) :
    ((units x).num.natAbs / (units x).den : Rat) = units x := by
  rw [Nat.cast_natAbs, abs_of_nonneg (Rat.num_nonneg.2 (units_nonneg x)), Rat.num_div_den]

theorem abs_nearest (x : Rat) :
    |nearest x| = Number.roundDiv (units x).num.natAbs (units x).den * 10 ^ lastPlace x := by
  have hsign : |(if x < 0 then -1 else 1 : Rat)| = 1 := by
    split <;> simp
  have hnonneg : (0 : Rat) ≤
      Number.roundDiv (units x).num.natAbs (units x).den * 10 ^ lastPlace x := by positivity
  rw [nearest, abs_mul, hsign, one_mul]
  exact abs_of_nonneg hnonneg

/-- Rounding moves a number by half a unit of its last place at most. -/
theorem abs_nearest_sub_le (x : Rat) : |nearest x - x| ≤ 10 ^ lastPlace x / 2 := by
  have hunit : (0 : Rat) < 10 ^ lastPlace x := by positivity
  have hround := Number.abs_roundDiv_sub_le (units x).num.natAbs (units x).den_pos
  rw [natAbs_num_div_den_units] at hround
  have hx := sign_mul_abs x
  rw [← units_mul] at hx
  have hfactor : nearest x - x = (if x < 0 then -1 else 1) *
      ((Number.roundDiv (units x).num.natAbs (units x).den - units x) * 10 ^ lastPlace x) := by
    rw [nearest]
    linear_combination hx
  have hsign : |(if x < 0 then -1 else 1 : Rat)| = 1 := by
    split <;> simp
  rw [hfactor, abs_mul, abs_mul, hsign, one_mul, abs_of_pos hunit]
  linarith [mul_le_mul_of_nonneg_right hround hunit.le]

/-- Rounding takes away less than half of a number. -/
theorem abs_le_two_mul_abs_nearest (x : Rat) : |x| ≤ 2 * |nearest x| := by
  obtain rfl | hne := eq_or_ne x 0
  · simp [nearest_zero]
  have hlog := Int.zpow_log_le_self (b := 10) (by norm_num) (abs_pos.2 hne)
  have hplace : lastPlace x ≤ Int.log 10 |x| := by
    have : precision = 28 := rfl
    unfold lastPlace
    omega
  have hunit : (10 : Rat) ^ lastPlace x ≤ |x| :=
    (zpow_le_zpow_right₀ (by norm_num) hplace).trans (by exact_mod_cast hlog)
  have herror := abs_nearest_sub_le x
  rw [abs_sub_comm] at herror
  linarith only [abs_sub_abs_le_abs_sub x (nearest x), herror, hunit]

/-- Rounding does not lead past a power of ten. -/
theorem abs_nearest_le {x : Rat} {n : Int} (hx : |x| < 10 ^ n) : |nearest x| ≤ 10 ^ n := by
  obtain rfl | hne := eq_or_ne x 0
  · rw [nearest_zero, abs_zero]
    positivity
  have hpos : 0 < |x| := abs_pos.2 hne
  have hhigh := Int.lt_zpow_succ_log_self (b := 10) (by norm_num) |x|
  have hlog : Int.log 10 |x| < n :=
    (Int.lt_zpow_iff_log_lt (by norm_num) hpos).1 (by exact_mod_cast hx)
  rw [Nat.cast_ofNat] at hhigh
  have hplace : (precision : Int) + lastPlace x = Int.log 10 |x| + 1 := by
    unfold lastPlace
    omega
  have hunits : units x < 10 ^ precision := by
    rw [units]
    calc
      _ < (10 : Rat) ^ (Int.log 10 |x| + 1) * 10 ^ (-lastPlace x) := by gcongr
      _ = 10 ^ precision := by
        rw [← hplace, ← zpow_add₀ (by norm_num), add_neg_cancel_right, zpow_natCast]
  rw [← natAbs_num_div_den_units, div_lt_iff₀ (by exact_mod_cast (units x).den_pos)] at hunits
  have hquotient : (units x).num.natAbs / (units x).den < 10 ^ precision :=
    Nat.div_lt_of_lt_mul (by rw [Nat.mul_comm]; exact_mod_cast hunits)
  have hround : Number.roundDiv (units x).num.natAbs (units x).den ≤ 10 ^ precision := by
    have := Number.roundDiv_eq_or (units x).num.natAbs (units x).den
    omega
  have hround : (Number.roundDiv (units x).num.natAbs (units x).den : Rat) ≤ 10 ^ precision := by
    exact_mod_cast hround
  rw [abs_nearest]
  calc
    _ ≤ (10 : Rat) ^ precision * 10 ^ lastPlace x := by gcongr
    _ = 10 ^ (Int.log 10 |x| + 1) := by
      rw [← zpow_natCast, ← zpow_add₀ (by norm_num), hplace]
    _ ≤ 10 ^ n := zpow_le_zpow_right₀ (by norm_num) (by omega)

end Decimal

end Billing
