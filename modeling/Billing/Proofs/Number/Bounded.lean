import Billing.Proofs.Number.Nearest
import Billing.Proofs.Outcome

/-!
# Arithmetic on lengths

Sums, differences and quotients of binary64 numbers whose exact results are at most 4000 in size are
finite, and a thousandth away from the exact result or less (`IsBetween`). The bounds are those of
lengths on a page; the error is much smaller in truth.

* `isBetween_ofRat`, `IsBetween.add`, `IsBetween.sub`, `IsBetween.div`: the rounded operations.
* `IsBetween.exists_floorQuotient`: a quotient that is rounded down is an integer.
-/

namespace Billing

open Number

namespace Magnitude

theorem toRat_nonneg (m : Magnitude) : 0 ≤ m.toRat := by
  rw [toRat]
  positivity

theorem exponent_le_of_nearest? {n d : Nat} {x : Magnitude} {k : Int} (hn : 0 < n) (hd : 0 < d)
    (h : nearest? n d = some x) (hk : -1021 ≤ k) (hlt : (n / d : Rat) < 2 ^ k) :
    x.exponent ≤ k - 52 := by
  have hq : (0 : Rat) < n / d := div_pos (by exact_mod_cast hn) (by exact_mod_cast hd)
  have hlog : Int.log 2 (n / d : Rat) < k :=
    (Int.lt_zpow_iff_log_lt (by norm_num) hq).1 (by exact_mod_cast hlt)
  have hplace : lastPlace n d ≤ k - 53 := by
    rw [lastPlace, floorLog2_eq_log hn hd]
    omega
  rw [nearest?_eq hn] at h
  split at h
  · have := (mantissa_exponent_of_of? h).2
    omega
  · have := (mantissa_exponent_of_of? h).2
    omega

/-- A quotient that is not too large has a nearest magnitude, which is close to it. -/
theorem exists_nearest?_abs_sub_le {n d : Nat} (hd : 0 < d) (h : (n / d : Rat) < 2 ^ 12) :
    ∃ x, nearest? n d = some x ∧ |x.toRat - n / d| ≤ 1 / 1000 := by
  obtain rfl | hn := Nat.eq_zero_or_pos n
  · exact ⟨zero, rfl, by norm_num [toRat, zero]⟩
  · obtain ⟨x, hx⟩ :=
      exists_nearest? hn hd (h.trans (pow_lt_pow_right₀ (by norm_num) (by norm_num)))
    refine ⟨x, hx, (abs_toRat_sub_le hn hd hx).trans ?_⟩
    have hexponent := exponent_le_of_nearest? (k := 12) hn hd hx (by norm_num) (by exact_mod_cast h)
    have hunit : (2 : Rat) ^ x.exponent ≤ 1 / 1000 :=
      (zpow_le_zpow_right₀ (by norm_num) hexponent).trans (by norm_num)
    linarith only [hunit]

end Magnitude

namespace Binary64

/-- A finite number between two bounds. -/
structure IsBetween (low high : Rat) (x : Binary64) : Prop where
  isFinite : x.isFinite
  low_le : low ≤ x.toRat
  le_high : x.toRat ≤ high

variable {low high low' high' : Rat} {x y : Binary64}

theorem IsBetween.mono (h : x.IsBetween low high) (hlow : low' ≤ low) (hhigh : high ≤ high') :
    x.IsBetween low' high' := ⟨h.isFinite, hlow.trans h.low_le, h.le_high.trans hhigh⟩

theorem isBetween_self (hx : x.isFinite) : x.IsBetween x.toRat x.toRat := ⟨hx, le_rfl, le_rfl⟩

theorem IsBetween.exists_eq (h : x.IsBetween low high) : ∃ s m, x = finite s m := by
  have := h.isFinite
  cases x with
  | finite s m => exact ⟨s, m, rfl⟩
  | infinity | nan => cases this

theorem toRat_finite (s : Bool) (m : Magnitude) :
    (finite s m).toRat = (if s then -1 else 1) * m.toRat := by
  cases s <;> simp [toRat]

theorem isBetween_ofQuotient (s : Bool) {n d : Nat} (hd : 0 < d) (h : (n / d : Rat) ≤ 4000) :
    (ofQuotient s n d).IsBetween ((if s then -1 else 1) * (n / d) - 1 / 1000)
      ((if s then -1 else 1) * (n / d) + 1 / 1000) := by
  obtain ⟨m, hm, herror⟩ :=
    Magnitude.exists_nearest?_abs_sub_le hd (h.trans_lt (by norm_num : (4000 : Rat) < 2 ^ 12))
  have hquotient : ofQuotient s n d = finite s m := by rw [ofQuotient, hm]
  rw [hquotient]
  obtain ⟨hlower, hupper⟩ := abs_le.1 herror
  refine ⟨rfl, ?_, ?_⟩ <;> rw [toRat_finite] <;> cases s <;>
    simp only [Bool.false_eq_true, ↓reduceIte] <;> linarith only [hlower, hupper]

theorem natAbs_num_div_den (q : Rat) : (q.num.natAbs / q.den : Rat) = |q| := by
  rw [Nat.cast_natAbs, Int.cast_abs]
  conv_rhs => rw [← Rat.num_div_den q, abs_div, Nat.abs_cast]

theorem isBetween_ofRat {q : Rat} (h : |q| ≤ 4000) :
    (ofRat q).IsBetween (q - 1 / 1000) (q + 1 / 1000) := by
  have hbetween := isBetween_ofQuotient (q.num < 0) q.pos (by rwa [natAbs_num_div_den])
  rw [natAbs_num_div_den] at hbetween
  have hsign : (if decide (q.num < 0) = true then -1 else 1) * |q| = q := by
    by_cases hq : q < 0
    · rw [if_pos (by simpa using hq), abs_of_neg hq]
      ring
    · rw [if_neg (by simpa using hq), abs_of_nonneg (not_lt.1 hq), one_mul]
  rwa [hsign] at hbetween

theorem isBetween_signedZero (s : Bool) : (signedZero s).IsBetween 0 0 := by
  have hzero : (signedZero s).toRat = 0 := by
    cases s <;> norm_num [signedZero, toRat, Magnitude.toRat, Magnitude.zero]
  exact ⟨rfl, hzero.ge, hzero.le⟩

theorem toRat_eq_zero {m : Magnitude} (h : m.mantissa = 0) (s : Bool) : (finite s m).toRat = 0 := by
  rw [toRat_finite, Magnitude.toRat, h]
  norm_num

/-- A sum is rounded by a thousandth or less. -/
theorem IsBetween.add (hx : x.IsBetween low high) (hy : y.IsBetween low' high')
    (hlow : -4000 ≤ low + low') (hhigh : high + high' ≤ 4000) :
    (x + y).IsBetween (low + low' - 1 / 1000) (high + high' + 1 / 1000) := by
  have hsum : |x.toRat + y.toRat| ≤ 4000 := by
    rw [abs_le]
    constructor <;> linarith only [hx.low_le, hx.le_high, hy.low_le, hy.le_high, hlow, hhigh]
  suffices h : (x + y).IsBetween (x.toRat + y.toRat - 1 / 1000) (x.toRat + y.toRat + 1 / 1000) from
    h.mono (by linarith only [hx.low_le, hy.low_le]) (by linarith only [hx.le_high, hy.le_high])
  obtain ⟨s, m, rfl⟩ := hx.exists_eq
  obtain ⟨t, m', rfl⟩ := hy.exists_eq
  change (Binary64.add _ _).IsBetween _ _
  rw [Binary64.add]
  split
  · rename_i hzero
    simp only [Bool.and_eq_true, decide_eq_true_eq] at hzero
    rw [toRat_eq_zero hzero.1, toRat_eq_zero hzero.2]
    exact (isBetween_signedZero _).mono (by norm_num) (by norm_num)
  · exact isBetween_ofRat hsum

theorem IsBetween.neg (hx : x.IsBetween low high) : x.neg.IsBetween (-high) (-low) := by
  obtain ⟨s, m, rfl⟩ := hx.exists_eq
  have hvalue : (finite s m).neg.toRat = -(finite s m).toRat := by
    cases s <;> simp [Binary64.neg, toRat]
  refine ⟨rfl, ?_, ?_⟩ <;> rw [hvalue] <;> linarith only [hx.low_le, hx.le_high]

/-- A difference is rounded by a thousandth or less. -/
theorem IsBetween.sub (hx : x.IsBetween low high) (hy : y.IsBetween low' high')
    (hlow : -4000 ≤ low - high') (hhigh : high - low' ≤ 4000) :
    (x - y).IsBetween (low - high' - 1 / 1000) (high - low' + 1 / 1000) := by
  have hsum := hx.add hy.neg (by linarith only [hlow]) (by linarith only [hhigh])
  exact hsum.mono (by linarith) (by linarith)

theorem isBetween_ofQuotient_of_nonneg (s : Bool) {q : Rat} (hq : 0 ≤ q) (h : q ≤ 4000) :
    (ofQuotient s q.num.natAbs q.den).IsBetween ((if s then -1 else 1) * q - 1 / 1000)
      ((if s then -1 else 1) * q + 1 / 1000) := by
  have hsize : (q.num.natAbs / q.den : Rat) = q := by rw [natAbs_num_div_den, abs_of_nonneg hq]
  have hbetween := isBetween_ofQuotient s q.pos (by rwa [hsize])
  rwa [hsize] at hbetween

/-- A product is rounded by a thousandth or less. -/
theorem isBetween_mul (hx : x.isFinite) (hy : y.isFinite) (h : |x.toRat * y.toRat| ≤ 4000) :
    (x * y).IsBetween (x.toRat * y.toRat - 1 / 1000) (x.toRat * y.toRat + 1 / 1000) := by
  obtain ⟨s, m, rfl⟩ := (isBetween_self hx).exists_eq
  obtain ⟨t, m', rfl⟩ := (isBetween_self hy).exists_eq
  have hnonneg := mul_nonneg (Magnitude.toRat_nonneg m) (Magnitude.toRat_nonneg m')
  have hsign : (if (s != t) = true then -1 else 1) * (m.toRat * m'.toRat) =
      (finite s m).toRat * (finite t m').toRat := by
    rw [toRat_finite, toRat_finite]
    cases s <;> cases t <;> simp
  rw [← hsign] at h ⊢
  refine isBetween_ofQuotient_of_nonneg _ hnonneg ?_
  rw [abs_mul, abs_of_nonneg hnonneg] at h
  split at h <;> simpa using h

/-- A quotient is rounded by a thousandth or less. -/
theorem isBetween_div (hx : x.isFinite) (hy : y.isFinite) (hzero : y.toRat ≠ 0)
    (h : |x.toRat / y.toRat| ≤ 4000) :
    (x / y).IsBetween (x.toRat / y.toRat - 1 / 1000) (x.toRat / y.toRat + 1 / 1000) := by
  obtain ⟨s, m, rfl⟩ := (isBetween_self hx).exists_eq
  obtain ⟨t, m', rfl⟩ := (isBetween_self hy).exists_eq
  have hmantissa : m'.mantissa ≠ 0 := fun h => hzero (toRat_eq_zero h t)
  have hnonneg := div_nonneg (Magnitude.toRat_nonneg m) (Magnitude.toRat_nonneg m')
  have hsign : (if (s != t) = true then -1 else 1) * (m.toRat / m'.toRat) =
      (finite s m).toRat / (finite t m').toRat := by
    rw [toRat_finite, toRat_finite]
    cases s <;> cases t <;> simp [neg_div, div_neg]
  rw [← hsign] at h ⊢
  change (Binary64.div _ _).IsBetween _ _
  rw [Binary64.div, if_neg hmantissa]
  refine isBetween_ofQuotient_of_nonneg _ hnonneg ?_
  rw [abs_mul, abs_of_nonneg hnonneg] at h
  split at h <;> simpa using h

theorem isBetween_one : (1 : Binary64).IsBetween (1 - 1 / 1000) (1 + 1 / 1000) := by
  have := isBetween_ofQuotient false (show 0 < 1 by norm_num) (n := 1) (by norm_num)
  norm_num at this ⊢
  exact this

theorem exists_floor (hx : x.isFinite) : x.floor = .ok ⌊x.toRat⌋ := by
  cases x with
  | finite => rfl
  | infinity | nan => cases hx

/-- The quotient rounded towards zero, of which the remainder is left. -/
def truncated (x y : Rat) : Int := if 0 ≤ x / y then (x / y).floor else (x / y).ceil

theorem abs_truncated_sub_le (x y : Rat) : |(truncated x y : Rat) - x / y| ≤ 1 := by
  unfold truncated
  rw [abs_le]
  split
  · constructor <;> linarith only [(x / y).floor_le, Rat.lt_floor (x := x / y)]
  · constructor <;> linarith only [Rat.le_ceil (x := x / y), Rat.ceil_lt (x := x / y)]

/-- A multiple of the divisor that the dividend exceeds by less than the divisor. -/
theorem abs_mul_truncated_sub_le (x : Rat) {y : Rat} (hy : 0 < y) :
    |y * truncated x y - x| ≤ y := by
  have hfactor : y * truncated x y - x = y * (truncated x y - x / y) := by
    field_simp
  rw [hfactor, abs_mul, abs_of_pos hy]
  exact mul_le_of_le_one_right hy.le (abs_truncated_sub_le x y)

theorem remainder_finite (s t : Bool) (m m' : Magnitude) :
    remainder (finite s m) (finite t m') =
      let r := (finite s m).toRat -
        (finite t m').toRat * truncated (finite s m).toRat (finite t m').toRat
      if r = 0 then signedZero s else ofRat r := rfl

/-- A remainder is exact up to a thousandth. -/
theorem isBetween_remainder (hx : x.isFinite) (hy : y.isFinite) (hpos : 0 < y.toRat)
    (hhigh : y.toRat ≤ 100) :
    (remainder x y).IsBetween (x.toRat - y.toRat * truncated x.toRat y.toRat - 1 / 1000)
      (x.toRat - y.toRat * truncated x.toRat y.toRat + 1 / 1000) := by
  obtain ⟨s, m, rfl⟩ := (isBetween_self hx).exists_eq
  obtain ⟨t, m', rfl⟩ := (isBetween_self hy).exists_eq
  have hsize : |(finite s m).toRat -
      (finite t m').toRat * truncated (finite s m).toRat (finite t m').toRat| ≤ 4000 := by
    rw [abs_sub_comm]
    linarith only [abs_mul_truncated_sub_le (finite s m).toRat hpos, hhigh]
  rw [remainder_finite]
  dsimp only
  split
  · rename_i hzero
    rw [hzero]
    exact (isBetween_signedZero s).mono (by norm_num) (by norm_num)
  · exact isBetween_ofRat hsize

theorem IsBetween.abs_truncated_le (hx : x.IsBetween (-2000) 2000) (hy : y.IsBetween 1 100) :
    |(truncated x.toRat y.toRat : Rat)| ≤ 2001 := by
  have hpos : 0 < y.toRat := by linarith only [hy.low_le]
  have hquotient : |x.toRat / y.toRat| ≤ 2000 := by
    rw [abs_div, abs_of_pos hpos, div_le_iff₀ hpos]
    linarith only [abs_le.2 ⟨hx.low_le, hx.le_high⟩, hy.low_le]
  have := abs_sub_abs_le_abs_sub (truncated x.toRat y.toRat : Rat) (x.toRat / y.toRat)
  linarith only [this, abs_truncated_sub_le x.toRat y.toRat, hquotient]

/-- The dividend without the remainder, divided, is close to the truncated quotient. -/
theorem IsBetween.div_sub_remainder (hx : x.IsBetween (-2000) 2000) (hy : y.IsBetween 1 100) :
    ((x - remainder x y) / y).IsBetween (truncated x.toRat y.toRat - 3 / 1000)
      (truncated x.toRat y.toRat + 3 / 1000) := by
  have hpos : 0 < y.toRat := by linarith only [hy.low_le]
  obtain ⟨hlow, hhigh⟩ := abs_le.1 (hx.abs_truncated_le hy)
  have hmultiple := abs_mul_truncated_sub_le x.toRat hpos
  have hremainder := isBetween_remainder hx.isFinite hy.isFinite hpos hy.le_high
  generalize truncated x.toRat y.toRat = k at *
  obtain ⟨hmultiplelow, hmultiplehigh⟩ := abs_le.1 hmultiple
  have hdifference := (isBetween_self hx.isFinite).sub hremainder
    (by linarith only [hmultiplelow, hx.low_le, hy.le_high])
    (by linarith only [hmultiplehigh, hx.le_high, hy.le_high])
  have hclose : |(x - remainder x y).toRat / y.toRat - k| ≤ 2 / 1000 := by
    have herror : |(x - remainder x y).toRat - k * y.toRat| ≤ 2 / 1000 := by
      rw [abs_le]
      constructor <;> linarith only [hdifference.low_le, hdifference.le_high]
    have hfactor : (x - remainder x y).toRat / y.toRat - k =
        ((x - remainder x y).toRat - k * y.toRat) / y.toRat := by
      field_simp
    rw [hfactor, abs_div, abs_of_pos hpos, div_le_iff₀ hpos]
    linarith only [herror, hy.low_le]
  obtain ⟨hcloselow, hclosehigh⟩ := abs_le.1 hclose
  have hdivided := isBetween_div hdifference.isFinite hy.isFinite hpos.ne'
    (abs_le.2 ⟨by linarith only [hcloselow, hlow], by linarith only [hclosehigh, hhigh]⟩)
  exact hdivided.mono (by linarith only [hcloselow]) (by linarith only [hclosehigh])

/-- A length is divided by a length that is not too small, rounded down. -/
theorem IsBetween.exists_floorQuotient (hx : x.IsBetween (-2000) 2000) (hy : y.IsBetween 1 100) :
    ∃ n : Int, floorQuotient x y = .ok n ∧ n * y.toRat ≤ x.toRat + 3 * y.toRat := by
  have hpos : 0 < y.toRat := by linarith only [hy.low_le]
  have hnonzero : y.isZero = false := by
    obtain ⟨t, m, rfl⟩ := hy.exists_eq
    by_contra hzero
    rw [Bool.not_eq_false, isZero, beq_iff_eq] at hzero
    exact hpos.ne' (toRat_eq_zero hzero t)
  obtain ⟨hlow, hhigh⟩ := abs_le.1 (hx.abs_truncated_le hy)
  have hmultiple := (abs_le.1 (abs_mul_truncated_sub_le x.toRat hpos)).2
  have hdivided := hx.div_sub_remainder hy
  generalize truncated x.toRat y.toRat = k at *
  have hlessened : (if (!(remainder x y).isZero && (remainder x y).signBit != y.signBit) = true
      then (x - remainder x y) / y - 1 else (x - remainder x y) / y).IsBetween (k - 2) (k + 1) := by
    split
    · have hless := hdivided.sub isBetween_one (by linarith only [hlow]) (by linarith only [hhigh])
      exact hless.mono (by linarith) (by linarith)
    · exact hdivided.mono (by linarith) (by linarith)
  rw [floorQuotient, if_neg (by rw [hnonzero]; exact Bool.false_ne_true)]
  dsimp only
  generalize (if (!(remainder x y).isZero && (remainder x y).signBit != y.signBit) = true
      then (x - remainder x y) / y - 1 else (x - remainder x y) / y) = q at *
  have hfloor := exists_floor hlessened.isFinite
  have hfloorle : (⌊q.toRat⌋ : Rat) ≤ k + 1 := (Int.floor_le _).trans hlessened.le_high
  refine ⟨_, bind_eq_ok.2 ⟨_, hfloor, rfl⟩, ?_⟩
  have hcount : ((if lt (ofRat (1 / 2)) (q - ofInt ⌊q.toRat⌋) = true then ⌊q.toRat⌋ + 1
      else ⌊q.toRat⌋ : Int) : Rat) ≤ k + 2 := by
    split
    · push_cast
      linarith only [hfloorle]
    · linarith only [hfloorle]
  nlinarith only [hcount, hmultiple, hpos]

end Binary64

end Billing
