import Billing.Number.Rounding
import Billing.Proofs.Number.Exact
import Mathlib.Algebra.Order.Field.Power
import Mathlib.Data.Int.Log
import Mathlib.Tactic.Linarith

/-!
# Rounded quotients

Where the leading digit of a positive quotient stands, and how far a rounded quotient is from the
exact one. Both depend on the value of a quotient only.

* `floorLog2_eq_log`, `floorLog10_eq_log`: the power of two and of ten below a quotient.
* `abs_roundDiv_sub_le`: the error of a rounded quotient is at most a half.
-/

namespace Billing.Number

/-! ## Leading digits -/

/-- Whether a function counts the digits of positive numbers in a base. -/
def CountsDigits (b : Nat) (count : Nat → Nat) : Prop :=
  ∀ n, 0 < n → 0 < count n ∧ b ^ (count n - 1) ≤ n ∧ n < b ^ count n

theorem countsDigits_bitLength : CountsDigits 2 bitLength := by
  intro n hn
  rw [bitLength, if_neg hn.ne']
  exact ⟨by omega, Nat.log2_self_le hn.ne', Nat.lt_log2_self⟩

theorem countsDigits_digitCount : CountsDigits 10 digitCount := by
  intro n hn
  have hpos := digitCount_pos n
  refine ⟨hpos, ?_, (digitCount_le_iff hpos).1 le_rfl⟩
  obtain hone | hmore := Nat.eq_or_lt_of_le (Nat.succ_le_of_lt hpos)
  · rw [← hone]
    exact hn
  · by_contra hlt
    have := (digitCount_le_iff (by omega)).2 (not_le.1 hlt)
    omega

theorem eq_log {b : Nat} (hb : 1 < b) {q : Rat} (hq : 0 < q) {k : Int} (hlow : (b : Rat) ^ k ≤ q)
    (hhigh : q < (b : Rat) ^ (k + 1)) : Int.log b q = k :=
  le_antisymm (Int.lt_add_one_iff.1 ((Int.lt_zpow_iff_log_lt hb hq).1 hhigh))
    ((Int.zpow_le_iff_le_log hb hq).1 hlow)

/-- The power of the base below a quotient, from the number of digits of the quotient rounded down
if that is positive, and of its inverse otherwise. -/
theorem CountsDigits.log_eq {b : Nat} {count : Nat → Nat} (h : CountsDigits b count) (hb : 1 < b)
    {n d : Nat} (hn : 0 < n) (hd : 0 < d) :
    (if d ≤ n then (count (n / d) : Int) - 1 else -(count ((d - 1) / n) : Int)) =
      Int.log b (n / d : Rat) := by
  have hb0 : (0 : Rat) < b := by exact_mod_cast (by omega : 0 < b)
  have hd0 : (0 : Rat) < d := by exact_mod_cast hd
  have hq0 : (0 : Rat) < n / d := div_pos (by exact_mod_cast hn) hd0
  split
  · rename_i hle
    obtain ⟨hpos, hlow, hhigh⟩ := h (n / d) (Nat.div_pos hle hd)
    generalize count (n / d) = j at hpos hlow hhigh
    obtain ⟨j, rfl⟩ : ∃ i, j = i + 1 := ⟨j - 1, by omega⟩
    rw [Nat.add_sub_cancel, Nat.le_div_iff_mul_le hd] at hlow
    rw [Nat.div_lt_iff_lt_mul hd] at hhigh
    rw [Nat.cast_add_one, add_sub_cancel_right]
    refine (eq_log hb hq0 ?_ ?_).symm
    · rw [zpow_natCast, le_div_iff₀ hd0]
      exact_mod_cast hlow
    · rw [← Nat.cast_add_one, zpow_natCast, div_lt_iff₀ hd0]
      exact_mod_cast hhigh
  · rename_i hlt
    obtain ⟨hpos, hlow, hhigh⟩ := h ((d - 1) / n) (Nat.div_pos (by omega) hn)
    generalize count ((d - 1) / n) = j at hpos hlow hhigh
    obtain ⟨j, rfl⟩ : ∃ i, j = i + 1 := ⟨j - 1, by omega⟩
    rw [Nat.add_sub_cancel, Nat.le_div_iff_mul_le hn] at hlow
    rw [Nat.div_lt_iff_lt_mul hn] at hhigh
    have hlow : b ^ j * n < d := by omega
    have hhigh : d ≤ b ^ (j + 1) * n := by omega
    refine (eq_log hb hq0 ?_ ?_).symm
    · rw [zpow_neg, zpow_natCast, le_div_iff₀ hd0, inv_mul_le_iff₀ (by positivity)]
      exact_mod_cast hhigh
    · have hj : -((j + 1 : Nat) : Int) + 1 = -(j : Int) := by omega
      rw [hj, zpow_neg, zpow_natCast, div_lt_iff₀ hd0, lt_inv_mul_iff₀ (by positivity)]
      exact_mod_cast hlow

theorem floorLog2_eq_log {n d : Nat} (hn : 0 < n) (hd : 0 < d) :
    floorLog2 n d = Int.log 2 (n / d : Rat) :=
  countsDigits_bitLength.log_eq (by omega) hn hd

theorem floorLog10_eq_log {n d : Nat} (hn : 0 < n) (hd : 0 < d) :
    floorLog10 n d = Int.log 10 (n / d : Rat) :=
  countsDigits_digitCount.log_eq (by omega) hn hd

/-! ## Rounding -/

theorem scale_snd_pos {b : Nat} (hb : 0 < b) (n : Nat) {d : Nat} (hd : 0 < d) (k : Int) :
    0 < (scale b n d k).2 := by
  unfold scale
  split
  · exact hd
  · positivity

theorem scale_quotient {b : Nat} (hb : 0 < b) (n d : Nat) (k : Int) :
    ((scale b n d k).1 / (scale b n d k).2 : Rat) = n / d * (b : Rat) ^ k := by
  have hb0 : (b : Rat) ≠ 0 := by exact_mod_cast hb.ne'
  unfold scale
  split
  · rename_i hk
    obtain ⟨j, rfl⟩ := Int.eq_ofNat_of_zero_le hk
    rw [Int.toNat_natCast, zpow_natCast]
    push_cast
    ring
  · rename_i hk
    obtain ⟨j, hj⟩ := Int.eq_ofNat_of_zero_le (show 0 ≤ -k by omega)
    obtain rfl : k = -j := by omega
    rw [neg_neg, Int.toNat_natCast, zpow_neg, zpow_natCast]
    push_cast
    rw [← div_div, div_eq_mul_inv]

/-- A quotient is rounded to an integer at a distance of at most a half. -/
theorem abs_roundDiv_sub_le (a : Nat) {b : Nat} (hb : 0 < b) :
    |(roundDiv a b : Rat) - a / b| ≤ 1 / 2 := by
  have hb0 : (0 : Rat) < b := by exact_mod_cast hb
  have hmod := Nat.div_add_mod a b
  have hlt := Nat.mod_lt a hb
  have hround : 2 * (b * roundDiv a b) ≤ 2 * a + b ∧ 2 * a ≤ 2 * (b * roundDiv a b) + b := by
    unfold roundDiv
    have hparity := Nat.mod_two_eq_zero_or_one (a / b)
    generalize a / b = q at *
    generalize a % b = r at *
    dsimp only
    split
    · omega
    · split
      · rw [Nat.mul_add]
        omega
      · obtain h | h := hparity <;> rw [h, Nat.mul_add] <;> omega
  obtain ⟨hupper, hlower⟩ := hround
  have hupper : (2 : Rat) * (b * roundDiv a b) ≤ 2 * a + b := by exact_mod_cast hupper
  have hlower : (2 : Rat) * a ≤ 2 * (b * roundDiv a b) + b := by exact_mod_cast hlower
  have hquotient : (b : Rat) * (a / b) = a := mul_div_cancel₀ _ hb0.ne'
  rw [abs_sub_le_iff]
  constructor
  · refine le_of_mul_le_mul_left ?_ hb0
    linarith only [hupper, hquotient]
  · refine le_of_mul_le_mul_left ?_ hb0
    linarith only [hlower, hquotient]

/-- Two multiples of a unit that are less than a unit away from a value, both distances together,
are the same. -/
theorem eq_of_abs_sub_add_lt {unit x : Rat} {m m' : Nat} (hunit : 0 < unit)
    (h : |m * unit - x| + |m' * unit - x| < unit) : m = m' := by
  have hdist : |(m : Rat) - m'| < 1 := by
    refine lt_of_mul_lt_mul_right ?_ hunit.le
    rw [one_mul, ← abs_of_pos hunit, ← abs_mul, abs_of_pos hunit, sub_mul]
    refine (abs_sub_le _ x _).trans_lt ?_
    rwa [abs_sub_comm x]
  have hdist : |(m : Int) - m'| < 1 := by exact_mod_cast hdist
  rw [Int.abs_lt_one_iff] at hdist
  omega

/-- The only integer at a distance of less than a half is the rounded quotient. -/
theorem roundDiv_eq_of_abs_lt {a b m : Nat} (hb : 0 < b) (h : |(m : Rat) - a / b| < 1 / 2) :
    roundDiv a b = m := by
  refine eq_of_abs_sub_add_lt (x := a / b) one_pos ?_
  rw [mul_one, mul_one]
  linarith only [h, abs_roundDiv_sub_le a hb]

theorem roundDiv_mul_right (a b : Nat) {k : Nat} (hk : 0 < k) :
    roundDiv (a * k) (b * k) = roundDiv a b := by
  have hdouble : 2 * (a % b * k) = 2 * (a % b) * k := (Nat.mul_assoc ..).symm
  simp only [roundDiv, Nat.mul_div_mul_right _ _ hk, Nat.mul_mod_mul_right, hdouble,
    Nat.mul_lt_mul_right hk]

/-- What a quotient is rounded to depends on its value only. -/
theorem roundDiv_congr {a b a' b' : Nat} (hb : 0 < b) (hb' : 0 < b')
    (h : (a / b : Rat) = a' / b') : roundDiv a b = roundDiv a' b' := by
  have hcross : a * b' = a' * b := by
    rw [div_eq_div_iff (by exact_mod_cast hb.ne') (by exact_mod_cast hb'.ne')] at h
    exact_mod_cast h
  rw [← roundDiv_mul_right a b hb', hcross, Nat.mul_comm b, roundDiv_mul_right a' b' hb]

end Billing.Number
