import Billing.Number.Decimal
import Mathlib.Data.Rat.Floor
import Mathlib.Tactic.Ring

/-!
# Exact decimal arithmetic

A result with at most 28 significant digits, zeros at its end apart, is not rounded
(`Decimal.IsShort`).

* `Decimal.toRat_of_rounded`: a short result is exact.
* `Decimal.floor_eq`, `Decimal.toRat_normalize`: rounding down and dropping zeros are exact too.
-/

namespace Billing

theorem signed_natAbs (n : Int) : (if n < 0 then -1 else 1) * (n.natAbs : Rat) = n := by
  split
  · rename_i h
    rw [Nat.cast_natAbs, abs_of_neg h]
    simp
  · rename_i h
    rw [Nat.cast_natAbs, abs_of_nonneg (by omega), one_mul]

theorem Number.digitCount_le_iff {c k : Nat} (hk : 0 < k) : digitCount c ≤ k ↔ c < 10 ^ k := by
  rw [digitCount, digits_eq]
  exact Nat.length_toDigits_le_iff (by omega) hk

theorem Number.digitCount_pos (c : Nat) : 0 < digitCount c := by
  rw [digitCount, digits_eq]
  exact Nat.length_toDigits_pos

theorem Number.digitCount_mul_pow_le {c n : Nat} (k : Nat) (hn : 0 < n) (h : c < 10 ^ n) :
    digitCount (c * 10 ^ k) ≤ n + k := by
  rw [digitCount_le_iff (Nat.add_pos_left hn k), Nat.pow_add]
  gcongr

namespace Digits

/-- The exact value. -/
def toRat (x : Digits) : Rat := (x.coefficient : Rat) * (10 : Rat) ^ x.exponent

theorem toRat_trimmed (x : Digits) : x.trimmed.toRat = x.toRat := by
  fun_induction trimmed x with
  | case1 x h => simp [toRat, h]
  | case2 x hne hzero ih =>
    have hc : (x.coefficient : Rat) = (x.coefficient / 10 : Nat) * 10 := by
      exact_mod_cast (Nat.div_mul_cancel (Nat.dvd_of_mod_eq_zero hzero)).symm
    rw [ih]
    simp only [toRat]
    rw [zpow_add₀ (by norm_num), zpow_one, hc]
    ring
  | case3 => rfl

end Digits

namespace Decimal

/-- Whether a coefficient has no more digits than a result, zeros at its end apart. -/
def IsShort (c : Nat) : Prop := ∃ m k, c = m * 10 ^ k ∧ m < 10 ^ precision

theorem toRat_normalize (x : Decimal) : x.normalize.toRat = x.toRat := by
  cases x with
  | finite s c e =>
    have := Digits.toRat_trimmed ⟨c, e⟩
    simp only [Digits.toRat] at this
    simp only [normalize, toRat, mul_assoc, this]
  | infinity | nan => rfl

theorem floor_eq {x : Decimal} {n : Int} (h : x.floor = .ok n) : n = ⌊x.toRat⌋ := by
  cases x with
  | finite s c e =>
    have hsign : (if s then -1 else 1) * (c : Rat) = ((if s then -c else c : Int) : Rat) := by
      cases s <;> simp
    simp only [floor] at h
    simp only [toRat, hsign]
    split at h
    · rename_i he
      obtain ⟨k, rfl⟩ := Int.eq_ofNat_of_zero_le he
      obtain rfl := Except.ok.inj h
      rw [Int.toNat_natCast, zpow_natCast]
      exact_mod_cast (Int.floor_intCast (R := Rat) _).symm
    · rename_i he
      obtain ⟨k, hk⟩ := Int.eq_ofNat_of_zero_le (show 0 ≤ -e by omega)
      obtain rfl := Except.ok.inj h
      obtain rfl : e = -k := by omega
      rw [neg_neg, Int.toNat_natCast, zpow_neg, zpow_natCast, ← div_eq_mul_inv,
        Int.fdiv_eq_ediv_of_nonneg _ (by positivity)]
      exact_mod_cast (Rat.floor_intCast_div_natCast _ (10 ^ k)).symm
  | infinity | nan => simp [floor] at h

theorem floor_finite (s : Bool) (c : Nat) (e : Int) :
    (finite s c e).floor = .ok ⌊(finite s c e).toRat⌋ := by
  obtain ⟨n, hn⟩ : ∃ n, (finite s c e).floor = .ok n := by
    rw [floor]
    split <;> exact ⟨_, rfl⟩
  rw [hn, floor_eq hn]

/-! ## Rounding -/

/-- The first 28 digits of a coefficient, as a result has them. -/
def leading (c : Nat) : Nat := Number.roundDiv c (10 ^ (Number.digitCount c - precision))

theorem lt_pow_digitCount (c : Nat) : c < 10 ^ Number.digitCount c :=
  (Number.digitCount_le_iff (Number.digitCount_pos c)).1 le_rfl

theorem leading_le (c : Nat) : leading c ≤ 10 ^ precision := by
  have hlt := lt_pow_digitCount c
  unfold leading
  generalize Number.digitCount c = n at hlt ⊢
  by_cases hn : n ≤ precision
  · rw [Nat.sub_eq_zero_of_le hn, Nat.pow_zero, Number.roundDiv_one]
    exact hlt.le.trans (Nat.pow_le_pow_right (by omega) hn)
  · have hquotient : c / 10 ^ (n - precision) < 10 ^ precision := by
      refine Nat.div_lt_of_lt_mul ?_
      rwa [← Nat.pow_add, Nat.sub_add_cancel (by omega)]
    have := Number.roundDiv_eq_or c (10 ^ (n - precision))
    omega

/-- A result has the first digits of the coefficient, unless its exponent is too large. -/
theorem exists_rounded_eq (negative : Bool) {c : Nat} {e : Int} (hc : c ≠ 0) (he : minPlace ≤ e) :
    ∃ (c' : Nat) (e' : Int),
      (c' : Rat) * 10 ^ e' = leading c * 10 ^ (e + (Number.digitCount c - precision : Nat)) ∧
      c' < 10 ^ precision ∧ e ≤ e' ∧ e' + Number.digitCount c' ≤ e + Number.digitCount c + 1 ∧
      rounded negative c e =
        if c' ≠ 0 && maxExponent < e' + (Number.digitCount c' : Int) - 1 then
          .error .decimalOverflow
        else .ok (finite negative c' e') := by
  have hle := leading_le c
  have hcount : Number.digitCount c ≤ precision → leading c = c := by
    intro h
    rw [leading, Nat.sub_eq_zero_of_le h, Nat.pow_zero, Number.roundDiv_one]
  generalize hj : Number.digitCount c - precision = j
  have hplace : max (e + (j : Int)) minPlace = e + j := max_eq_left (by omega)
  -- the digits that are kept
  have hkept : (if e < e + (j : Int) then
      (rescale c (e + (j : Int) - e).toNat, e + (j : Int)) else (c, e)) =
      (leading c, e + (j : Int)) := by
    split
    · rw [add_sub_cancel_left, Int.toNat_natCast, rescale_eq, leading, hj]
    · obtain rfl : j = 0 := by omega
      rw [hcount (by omega), Nat.cast_zero, add_zero]
  by_cases hlong : leading c = 10 ^ precision
  · -- one digit more than kept, a zero
    have hone : Number.digitCount (10 ^ (precision - 1)) ≤ precision :=
      (Number.digitCount_le_iff (by simp [precision])).2 (by norm_num [precision])
    have hlarge : precision < Number.digitCount c := by
      by_contra hsmall
      rw [hcount (by omega)] at hlong
      have := (Number.digitCount_le_iff (by simp [precision])).1 (not_lt.1 hsmall)
      omega
    refine ⟨10 ^ (precision - 1), e + j + 1, ?_, by norm_num [precision], by omega, by omega, ?_⟩
    · rw [hlong, zpow_add_one₀ (by norm_num)]
      norm_num [precision]
      ring
    · rw [rounded, if_neg hc]
      simp only [hj, hplace, hkept, if_pos hlong]
  · have hlt : leading c < 10 ^ precision := lt_of_le_of_ne hle hlong
    refine ⟨leading c, e + j, rfl, hlt, by omega, ?_, ?_⟩
    · obtain hsmall | hlarge := Nat.lt_or_ge precision (Number.digitCount c)
      · have := (Number.digitCount_le_iff (by simp [precision])).2 hlt
        omega
      · rw [hcount hlarge]
        omega
    · rw [rounded, if_neg hc]
      simp only [hj, hplace, hkept, if_neg hlong]

/-- A result of a size that can be held has one. -/
theorem exists_rounded (negative : Bool) {c n : Nat} {e : Int} (hc : c < 10 ^ n)
    (he : minPlace ≤ e) (hn : e + n ≤ maxExponent) :
    ∃ c' e', rounded negative c e = .ok (finite negative c' e') ∧ c' < 10 ^ precision ∧
      e ≤ e' ∧ e' ≤ e + n := by
  obtain rfl | hpos := Nat.eq_zero_or_pos c
  · exact ⟨0, max minPlace (min maxExponent e), if_pos rfl, by positivity, by omega, by omega⟩
  · obtain ⟨c', e', -, hlt, hexponent, hcount, hrounded⟩ := exists_rounded_eq negative hpos.ne' he
    have hn0 : 0 < n := by
      refine Nat.pos_of_ne_zero ?_
      rintro rfl
      omega
    have hdigits := (Number.digitCount_le_iff hn0).2 hc
    have hsome := Number.digitCount_pos c'
    refine ⟨c', e', ?_, hlt, hexponent, by omega⟩
    rw [hrounded, if_neg]
    simp only [Bool.and_eq_true, decide_eq_true_eq, not_and, not_lt]
    omega

/-- The first digits of a short coefficient are all but zeros. -/
theorem leading_mul_pow {c : Nat} (short : IsShort c) :
    leading c * 10 ^ (Number.digitCount c - precision) = c := by
  obtain ⟨m, k, rfl, hm⟩ := short
  have hdigits := Number.digitCount_mul_pow_le k (by simp [precision]) hm
  rw [leading]
  generalize hj : Number.digitCount (m * 10 ^ k) - precision = j
  have hsplit : m * 10 ^ k = 10 ^ j * (m * 10 ^ (k - j)) := by
    rw [Nat.mul_left_comm, ← Nat.pow_add, Nat.add_sub_cancel' (by omega)]
  rw [hsplit, Number.roundDiv_mul_left (by positivity), Nat.mul_comm]

theorem toRat_of_rounded_eq_leading {negative : Bool} {c : Nat} {e : Int} {x : Decimal}
    (he : minPlace ≤ e) (h : rounded negative c e = .ok x) :
    x.toRat = (if negative then -1 else 1) *
      (leading c * 10 ^ (e + (Number.digitCount c - precision : Nat))) := by
  obtain rfl | hpos := Nat.eq_zero_or_pos c
  · rw [rounded, if_pos rfl] at h
    obtain rfl := Except.ok.inj h
    have hzero : leading 0 = 0 := by decide
    simp [toRat, hzero]
  · obtain ⟨c', e', hvalue, -, -, -, hrounded⟩ := exists_rounded_eq negative hpos.ne' he
    rw [hrounded] at h
    split at h
    · cases h
    · obtain rfl := Except.ok.inj h
      rw [← hvalue, toRat, mul_assoc]

/-- A short result is exact. -/
theorem toRat_of_rounded {negative : Bool} {c : Nat} {e : Int} {x : Decimal} (short : IsShort c)
    (he : minPlace ≤ e) (h : rounded negative c e = .ok x) :
    x.toRat = (finite negative c e).toRat := by
  have hshort := leading_mul_pow short
  rw [toRat_of_rounded_eq_leading he h, toRat, mul_assoc]
  congr 1
  rw [add_comm, zpow_add₀ (by norm_num), zpow_natCast, ← mul_assoc]
  congr 1
  exact_mod_cast hshort

/-! ## Products -/

theorem toRat_ofInt (n : Int) : (ofInt n).toRat = n := by
  simp only [ofInt, toRat, zpow_zero, mul_one, decide_eq_true_eq, signed_natAbs]

theorem toRat_mul_finite (s t : Bool) (c d : Nat) (e f : Int) :
    (finite (s != t) (c * d) (e + f)).toRat = (finite s c e).toRat * (finite t d f).toRat := by
  simp only [toRat, zpow_add₀ (show (10 : Rat) ≠ 0 by norm_num)]
  push_cast
  cases s <;> cases t <;> simp <;> ring

/-- A number of at most 28 digits, zeros at its end apart, and of a size that makes its percentage
exact. -/
def IsModerate (x : Decimal) : Prop :=
  ∃ (s : Bool) (m k : Nat) (e : Int), x = finite s (m * 10 ^ k) e ∧ m < 10 ^ precision ∧
    -1000 ≤ e ∧ e + k ≤ 1000

/-- Whether the exact product of an integer and a number has at most 28 digits, zeros at its end
apart. -/
def IsShortProduct (n : Int) : Decimal → Prop
  | finite _ c _ => IsShort (n.natAbs * c)
  | _ => False

theorem toRat_of_mul {n : Int} {x y : Decimal} (hx : x.IsModerate) (short : IsShortProduct n x)
    (h : (ofInt n).mul x = .ok y) : y.toRat = n * x.toRat := by
  obtain ⟨s, m, k, e, rfl, hm, he, -⟩ := hx
  have hplace : minPlace ≤ 0 + e := by
    simp only [minPlace, minExponent, precision]
    omega
  rw [toRat_of_rounded short hplace h, toRat_mul_finite]
  exact congrArg (· * _) (toRat_ofInt n)

end Decimal

end Billing
