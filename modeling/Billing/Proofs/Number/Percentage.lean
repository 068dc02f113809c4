import Billing.Proofs.Number.Order

/-!
# Percentages of rates

The product of a rate and one hundred is rounded to 28 digits, as every product is. A rate of 28
digits has a percentage of as many, so nothing is lost unless the percentage is too large or so
small that it has digits below the smallest place (`Decimal.HasPercentage`).

* `Decimal.exists_rounded_of_isShort`: a result of at most 28 digits is exact also where it is very
  small.
* `Decimal.HasPercentage.exists_mul_hundred`: the percentage of such a rate is exact.
* `Decimal.IsModerate.hasPercentage`: rates of ordinary sizes are such rates.
* `exists_taxLabel`: the percentage of such a rate is read off the label of the tax.
-/

namespace Billing

namespace Decimal

/-- A number of 28 digits stands below the place in front of them. -/
theorem mul_zpow_lt {m : Nat} (hm : m < 10 ^ precision) (j : Int) :
    (m : Rat) * 10 ^ j < 10 ^ (precision + j) := by
  rw [zpow_add₀ (by norm_num), zpow_natCast]
  exact mul_lt_mul_of_pos_right (by exact_mod_cast hm) (by positivity)

/-- The last of the 28 digits of a short coefficient does not stand above its last digit, zeros at
its end apart. -/
theorem IsShort.exists_eq_mul_lastPlace {c : Nat} (h : IsShort c) (hc : 0 < c) (e : Int) :
    ∃ n : Nat, (c : Rat) * 10 ^ e = n * 10 ^ lastPlace (c * 10 ^ e) := by
  obtain ⟨m, k, rfl, hm⟩ := h
  have hvalue : ((m * 10 ^ k : Nat) : Rat) * 10 ^ e = m * 10 ^ (k + e) := by
    push_cast
    rw [mul_assoc, ← zpow_natCast, ← zpow_add₀ (by norm_num)]
  have hpos : (0 : Rat) < m * 10 ^ (k + e) := by
    rw [← hvalue]
    positivity
  have hlog : Int.log 10 |(m * 10 ^ (k + e) : Rat)| < precision + (k + e) := by
    rw [abs_of_pos hpos]
    exact (Int.lt_zpow_iff_log_lt (by norm_num) hpos).1 (by exact_mod_cast mul_zpow_lt hm (k + e))
  have hplace : lastPlace (m * 10 ^ (k + e)) ≤ k + e := by
    unfold lastPlace
    omega
  rw [hvalue]
  generalize lastPlace (m * 10 ^ (k + e)) = place at hplace
  obtain ⟨j, hj⟩ := Int.le.dest hplace
  refine ⟨m * 10 ^ j, ?_⟩
  rw [← hj, zpow_add₀ (by norm_num), zpow_natCast]
  push_cast
  ring

/-- A short number is a multiple of the last place of its result, where this place is that of its
28th digit and also where it is the smallest one. -/
theorem IsShort.exists_eq_mul_resultPlace {c : Nat} (h : IsShort c) (hc : 0 < c) {e : Int}
    (hlow : (c : Rat) * 10 ^ e < 10 ^ minExponent →
      ∃ n : Nat, (c : Rat) * 10 ^ e = n * 10 ^ minPlace) :
    ∃ n : Nat, (c : Rat) * 10 ^ e = n * 10 ^ resultPlace (c * 10 ^ e) := by
  have hpos : (0 : Rat) < c * 10 ^ e := by positivity
  have hlog : (c : Rat) * 10 ^ e < 10 ^ minExponent ↔ lastPlace (c * 10 ^ e) < minPlace := by
    have hiff := Int.lt_zpow_iff_log_lt (b := 10) (by norm_num) (x := minExponent) hpos
    rw [Nat.cast_ofNat] at hiff
    rw [hiff, lastPlace, minPlace, abs_of_pos hpos]
    omega
  obtain hsmall | hlarge := lt_or_ge (lastPlace (c * 10 ^ e)) minPlace
  · rw [resultPlace, max_eq_right hsmall.le]
    exact hlow (hlog.2 hsmall)
  · rw [resultPlace, max_eq_left hlarge]
    exact h.exists_eq_mul_lastPlace hc e

/-- A result of at most 28 digits is exact if it is not too large, and if none of them stands below
the smallest place. -/
theorem exists_rounded_of_isShort (negative : Bool) {c : Nat} {e : Int} (short : IsShort c)
    (hhigh : (c : Rat) * 10 ^ e < 10 ^ (maxExponent + 1))
    (hlow : (c : Rat) * 10 ^ e < 10 ^ minExponent →
      ∃ n : Nat, (c : Rat) * 10 ^ e = n * 10 ^ minPlace) :
    ∃ c' e', rounded negative c e = .ok (finite negative c' e') ∧
      (finite negative c' e').toRat = (finite negative c e).toRat := by
  obtain rfl | hpos := Nat.eq_zero_or_pos c
  · exact ⟨0, _, if_pos rfl, by simp [toRat]⟩
  obtain ⟨n, hn⟩ := short.exists_eq_mul_resultPlace hpos hlow
  obtain ⟨c', e', hkept, hrounded⟩ := exists_rounded_eq_kept negative hpos.ne' e
  have hvalue : (c' : Rat) * 10 ^ e' = c * 10 ^ e := by
    rw [hkept, kept_eq_nearestMultiple hpos]
    generalize resultPlace (c * 10 ^ e) = k at hn ⊢
    rw [hn, nearestMultiple_mul_zpow]
  have hpos' : 0 < c' := by
    refine Nat.pos_of_ne_zero fun hzero => ?_
    rw [hzero, Nat.cast_zero, zero_mul] at hvalue
    exact absurd hvalue (by positivity)
  have hexponent : ¬ maxExponent < e' + (Number.digitCount c' : Int) - 1 := by
    have hlog := log_toRat_finite false hpos' e'
    rw [abs_toRat_finite, hvalue] at hlog
    have hsize : Int.log 10 ((c : Rat) * 10 ^ e) < maxExponent + 1 :=
      (Int.lt_zpow_iff_log_lt (by norm_num) (by positivity)).1 (by exact_mod_cast hhigh)
    omega
  refine ⟨c', e', ?_, by rw [toRat, toRat, mul_assoc, mul_assoc, hvalue]⟩
  rw [hrounded, if_neg (by simp [hexponent])]

/-- A rate of at most 28 digits, zeros at its end apart, whose percentage is not too large and loses
no digits where numbers have less than full precision. -/
structure HasPercentage (rate : Decimal) : Prop where
  short : ∃ s c e, rate = finite s c e ∧ IsShort c
  no_overflow : |rate.toRat * 100| < 10 ^ (maxExponent + 1)
  no_underflow : |rate.toRat * 100| < 10 ^ minExponent →
    ∃ n : Nat, |rate.toRat * 100| = n * 10 ^ minPlace

theorem abs_toRat_mul_hundred (s : Bool) (c : Nat) (e : Int) :
    |(finite s c e).toRat * 100| = (c * 100 : Nat) * 10 ^ e := by
  rw [abs_mul, abs_toRat_finite]
  push_cast
  norm_num
  ring

theorem HasPercentage.exists_mul_hundred {rate : Decimal} (h : rate.HasPercentage) :
    ∃ s c e, rate.mul (ofInt 100) = .ok (finite s c e) ∧
      (finite s c e).toRat = rate.toRat * 100 := by
  obtain ⟨⟨s, c, e, rfl, m, k, hc, hm⟩, hhigh, hlow⟩ := h
  rw [abs_toRat_mul_hundred, ← add_zero e] at hhigh hlow
  have hshort : IsShort (c * 100) := ⟨m, k + 2, by rw [hc]; ring, hm⟩
  obtain ⟨c', e', hrounded, hvalue⟩ := exists_rounded_of_isShort (s != false) hshort hhigh hlow
  refine ⟨_, c', e', hrounded, ?_⟩
  have hhundred : (finite false 100 0).toRat = 100 := by simp [toRat]
  rw [hvalue, toRat_mul_finite, hhundred]

/-- Rates of ordinary sizes have percentages. -/
theorem IsModerate.hasPercentage {rate : Decimal} (h : rate.IsModerate) : rate.HasPercentage := by
  obtain ⟨s, m, k, e, rfl, hm, he, hk⟩ := h
  refine ⟨⟨s, _, e, rfl, m, k, rfl, hm⟩, ?_, fun _ => ?_⟩
  · calc
      _ = (m : Rat) * 10 ^ (k + e + 2) := by
        rw [abs_toRat_mul_hundred, zpow_add₀ (by norm_num), zpow_add₀ (by norm_num), zpow_natCast]
        push_cast
        ring
      _ < 10 ^ (precision + (k + e + 2)) := mul_zpow_lt hm _
      _ ≤ 10 ^ (maxExponent + 1) := by
        refine zpow_le_zpow_right₀ (by norm_num) ?_
        simp only [precision, maxExponent]
        omega
  · rw [abs_toRat_mul_hundred]
    refine Digits.exists_toRat_eq_mul (x := ⟨m * 10 ^ k * 100, e⟩) ?_
    simp only [minPlace, minExponent, precision]
    omega

end Decimal

/-- The label of the tax shows the rate in percent. -/
theorem exists_taxLabel {rate : Decimal} (h : rate.HasPercentage) :
    ∃ s, taxLabel rate = .ok s ∧ readFigure? s = some (rate.toRat * 100) := by
  obtain ⟨s, c, e, hmul, hvalue⟩ := h.exists_mul_hundred
  refine ⟨_, taxLabel_of_mul hmul, ?_⟩
  rw [readFigure?_append_right (by cbv), readFigure?_append_left (by cbv), ← hvalue,
    ← Decimal.toRat_normalize]
  exact readFigure?_of_plainText ..

end Billing
