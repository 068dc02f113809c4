import Billing.Proofs.Number.Shortest

/-!
# The size of shortest digits

The digits of a magnitude, whichever it is, have neither a very small nor a very large exponent, and
not too many of them (`Magnitude.significant_bounds`). The bounds are crude: the arithmetic on these
digits has room for much larger numbers.
-/

namespace Billing

open Number

namespace Digits

theorem min_le_exponent_trimmed (x : Digits) : min x.exponent 0 ≤ x.trimmed.exponent := by
  fun_induction trimmed x with
  | case1 => exact min_le_right _ _
  | case2 x _ _ ih => exact (min_le_min_right 0 (Int.le_add_one le_rfl)).trans ih
  | case3 => exact min_le_left _ _

theorem exponent_trimmed_of_eq_zero {x : Digits} (h : x.trimmed.coefficient = 0) :
    x.trimmed.exponent = 0 := by
  fun_induction trimmed x with
  | case1 => rfl
  | case2 _ _ _ ih => exact ih h
  | case3 x hne => exact absurd h hne

/-- A value below a power of ten has no exponent above it, and the coefficient is below the power
that the smallest exponent leaves. -/
theorem exponent_le_and_coefficient_lt {x : Digits} {n k : Nat} (hlow : -(k : Int) ≤ x.exponent)
    (hvalue : x.toRat < 10 ^ n) (hzero : x.coefficient = 0 → x.exponent = 0) :
    x.exponent ≤ n ∧ x.coefficient < 10 ^ (n + k) := by
  constructor
  · obtain hc | hc := Nat.eq_zero_or_pos x.coefficient
    · rw [hzero hc]
      exact Int.natCast_nonneg n
    · exact (exponent_lt hc (by exact_mod_cast hvalue)).le
  · have hunit : (10 : Rat) ^ (-(k : Int)) ≤ 10 ^ x.exponent :=
      zpow_le_zpow_right₀ (by norm_num) hlow
    have hle : (x.coefficient : Rat) * 10 ^ (-(k : Int)) < 10 ^ n := by
      refine lt_of_le_of_lt ?_ hvalue
      rw [toRat]
      gcongr
    rw [zpow_neg, zpow_natCast, ← div_eq_mul_inv, div_lt_iff₀ (by positivity), ← pow_add] at hle
    exact_mod_cast hle

end Digits

namespace Magnitude

variable {x : Magnitude}

theorem toRat_pos (hx : 0 < x.mantissa) : 0 < x.toRat := by
  rw [toRat]
  positivity

theorem toRat_exactDigits (x : Magnitude) : x.exactDigits.toRat = x.toRat := by
  rw [exactDigits, toRat]
  split
  · rename_i he
    obtain ⟨k, hk⟩ := Int.eq_ofNat_of_zero_le he
    rw [Digits.toRat, hk, Int.toNat_natCast, zpow_zero, mul_one, zpow_natCast]
    push_cast
    rfl
  · rename_i he
    obtain ⟨k, hk⟩ := Int.eq_ofNat_of_zero_le (show 0 ≤ -x.exponent by omega)
    have he : x.exponent = -k := by omega
    rw [Digits.toRat, he, neg_neg, Int.toNat_natCast, zpow_neg, zpow_neg, zpow_natCast,
      zpow_natCast]
    have hten : (10 : Rat) ^ k = 2 ^ k * 5 ^ k := by
      rw [← mul_pow]
      norm_num
    rw [hten]
    push_cast
    field_simp

/-- The magnitudes other than zero lie between two powers of ten. -/
theorem toRat_range (hx : 0 < x.mantissa) :
    (10 : Rat) ^ (-540 : Int) ≤ x.toRat ∧ x.toRat < 10 ^ 342 := by
  obtain ⟨hmantissa, hlow, hhigh, -⟩ := x.canonical
  have hone : (1 : Rat) ≤ x.mantissa := by exact_mod_cast hx
  have hmantissa : (x.mantissa : Rat) < 2 ^ 53 := by exact_mod_cast hmantissa
  have hunit : (0 : Rat) < 2 ^ x.exponent := by positivity
  rw [toRat]
  constructor
  · calc
      (10 : Rat) ^ (-540 : Int) ≤ 2 ^ (-1080 : Int) := by
        have : (2 : Rat) ^ 1080 ≤ 10 ^ 540 := by
          rw [show 1080 = 2 * 540 from rfl, pow_mul]
          gcongr
          norm_num
        rw [zpow_neg, zpow_neg, zpow_ofNat, zpow_ofNat]
        exact inv_anti₀ (by positivity) this
      _ ≤ 2 ^ x.exponent := zpow_le_zpow_right₀ (by norm_num) (by omega)
      _ ≤ x.mantissa * 2 ^ x.exponent := le_mul_of_one_le_left hunit.le hone
  · calc
      (x.mantissa : Rat) * 2 ^ x.exponent < 2 ^ 53 * 2 ^ x.exponent := by gcongr
      _ ≤ 2 ^ 53 * 2 ^ (973 : Int) := by
        gcongr
        · norm_num
        · omega
      _ = (2 ^ 3) ^ 342 := by
        rw [zpow_ofNat, ← pow_add, ← pow_mul]
      _ ≤ 10 ^ 342 := by
        gcongr
        norm_num

theorem coefficient_le_of_mem_neighbours (hx : 0 < x.mantissa) {places : Nat} {d : Digits}
    (hd : d ∈ x.neighbours places) : d.coefficient ≤ 10 ^ places := by
  obtain ⟨far, hfar, hneighbours⟩ := neighbours_eq hx places
  have hhigh := Int.lt_zpow_succ_log_self (b := 10) (by norm_num) x.toRat
  have hquotient := scale_quotient (by omega : 0 < 10) x.quotient.1 x.quotient.2
    (-x.lastDigit places)
  have hpos := scale_snd_pos (by omega : 0 < 10) x.quotient.1 (quotient_pos hx).2
    (-x.lastDigit places)
  generalize scale 10 x.quotient.1 x.quotient.2 (-x.lastDigit places) = s at *
  rw [quotient_eq_toRat, Nat.cast_ofNat] at hquotient
  rw [Nat.cast_ofNat] at hhigh
  have hlt : (s.1 / s.2 : Rat) < 10 ^ places := by
    rw [hquotient]
    calc
      _ < (10 : Rat) ^ (Int.log 10 x.toRat + 1) * 10 ^ (-x.lastDigit places) := by gcongr
      _ = 10 ^ places := by
        rw [← zpow_add₀ (by norm_num), ← zpow_natCast, lastDigit]
        congr 1
        omega
  have hbelow : s.1 / s.2 < 10 ^ places := by
    rw [div_lt_iff₀ (by exact_mod_cast hpos)] at hlt
    exact Nat.div_lt_of_lt_mul (by rw [Nat.mul_comm]; exact_mod_cast hlt)
  rw [hneighbours, List.mem_pair] at hd
  have hnear := roundDiv_eq_or s.1 s.2
  obtain rfl | rfl := hd <;> dsimp only <;> omega

/-- A neighbour is at most ten times as large. -/
theorem toRat_le_of_mem_neighbours (hx : 0 < x.mantissa) {places : Nat} {d : Digits}
    (hd : d ∈ x.neighbours places) : d.toRat ≤ 10 * x.toRat := by
  have hcoefficient : (d.coefficient : Rat) ≤ 10 ^ places := by
    exact_mod_cast coefficient_le_of_mem_neighbours hx hd
  have hlow := Int.zpow_log_le_self (b := 10) (by norm_num) (toRat_pos hx)
  rw [Nat.cast_ofNat] at hlow
  rw [Digits.toRat, exponent_of_mem_neighbours hx hd]
  calc
    _ ≤ (10 : Rat) ^ places * 10 ^ x.lastDigit places := by gcongr
    _ = 10 * 10 ^ Int.log 10 x.toRat := by
      rw [← zpow_natCast, ← zpow_add₀ (by norm_num), ← zpow_one_add₀ (by norm_num), lastDigit]
      congr 1
      omega
    _ ≤ 10 * x.toRat := by gcongr

/-- The shortest digits are those of a neighbour of at most 17 digits that is read back as the
magnitude, or all digits. -/
theorem exists_shortest_eq (x : Magnitude) :
    ∃ d : Digits, x.shortest = d.trimmed ∧ (d = x.exactDigits ∨
      (∃ k < 17, d ∈ x.neighbours (k + 1)) ∧ d.nearest? = some x) := by
  rw [shortest]
  cases hfound : (List.range 17).findSome? fun k =>
      (x.neighbours (k + 1)).find? fun d => d.nearest? = some x with
  | none => exact ⟨_, rfl, .inl rfl⟩
  | some d =>
    obtain ⟨k, hk, hd⟩ := List.exists_of_findSome?_eq_some hfound
    exact ⟨d, rfl, .inr ⟨⟨k, List.mem_range.1 hk, List.mem_of_find?_eq_some hd⟩,
      by simpa using List.find?_some hd⟩⟩

theorem significant_bounds (x : Magnitude) :
    -1074 ≤ x.significant.exponent ∧ x.significant.exponent ≤ 400 ∧
      x.significant.coefficient < 10 ^ 1474 := by
  obtain hzero | hx := Nat.eq_zero_or_pos x.mantissa
  · rw [significant, if_pos hzero]
    exact ⟨by norm_num, by norm_num, by positivity⟩
  rw [significant, if_neg hx.ne']
  obtain ⟨hlow, hhigh⟩ := toRat_range hx
  obtain ⟨d, hshortest, hd⟩ := x.exists_shortest_eq
  have hexponent : -1074 ≤ d.exponent ∧ d.toRat ≤ 10 * x.toRat := by
    obtain rfl | ⟨⟨k, hk, hd⟩, -⟩ := hd
    · refine ⟨?_, ?_⟩
      · have := x.canonical.2.1
        rw [exactDigits]
        split
        · norm_num
        · exact this
      · rw [toRat_exactDigits]
        exact le_mul_of_one_le_left (toRat_pos hx).le (by norm_num)
    · refine ⟨?_, toRat_le_of_mem_neighbours hx hd⟩
      have hlog : -540 ≤ Int.log 10 x.toRat :=
        (Int.zpow_le_iff_le_log (by norm_num) (toRat_pos hx)).1 (by exact_mod_cast hlow)
      rw [exponent_of_mem_neighbours hx hd, lastDigit]
      omega
  have hmin := d.min_le_exponent_trimmed
  have hvalue : d.trimmed.toRat < 10 ^ 400 := by
    rw [Digits.toRat_trimmed]
    calc
      d.toRat ≤ 10 * x.toRat := hexponent.2
      _ < 10 * 10 ^ 342 := by gcongr
      _ = 10 ^ 343 := (pow_succ' _ _).symm
      _ ≤ 10 ^ 400 := pow_le_pow_right₀ (by norm_num) (by norm_num)
  obtain ⟨hexponent', hcoefficient⟩ := Digits.exponent_le_and_coefficient_lt (k := 1074)
    (by omega) hvalue Digits.exponent_trimmed_of_eq_zero
  rw [hshortest, show 1474 = 400 + 1074 from rfl]
  exact ⟨by omega, hexponent', hcoefficient⟩

end Magnitude

end Billing
