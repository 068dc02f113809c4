import Billing.Proofs.Number.Nearest

/-!
# Shortest digits

The shortest digits of a magnitude are sought among its neighbours of ever more digits
(`Magnitude.exists_shortest`). A decimal value of 15 digits is one of them, and no other value of
so few digits is as near to the magnitude, so it is the value that is found.

* `Magnitude.toRat_shortest`: the shortest digits of the magnitude nearest to a decimal value of 15
  digits have that value.
* `Binary64.exists_ofDecimal`: such a value passes through binary64 unchanged.
-/

namespace Billing

open Number

namespace Digits

theorem scale_eq_toRat (x : Digits) :
    ((scale 10 x.coefficient 1 x.exponent).1 / (scale 10 x.coefficient 1 x.exponent).2 : Rat) =
      x.toRat := by
  rw [scale_quotient (by omega), toRat, Nat.cast_one, div_one, Nat.cast_ofNat]

theorem scale_fst_pos {x : Digits} (hx : 0 < x.coefficient) :
    0 < (scale 10 x.coefficient 1 x.exponent).1 := by
  unfold scale
  split <;> positivity

theorem nearest?_congr {x y : Digits} (hx : 0 < x.coefficient) (hy : 0 < y.coefficient)
    (h : x.toRat = y.toRat) : x.nearest? = y.nearest? := by
  refine Magnitude.nearest?_congr (scale_fst_pos hx) (scale_snd_pos (by omega) _ (by omega) _)
    (scale_fst_pos hy) (scale_snd_pos (by omega) _ (by omega) _) ?_
  rw [scale_eq_toRat, scale_eq_toRat, h]

/-- Digits with the value of a magnitude read back as it. -/
theorem nearest?_of_toRat_eq {d : Digits} {x : Magnitude} (hd : 0 < d.coefficient)
    (h : d.toRat = x.toRat) : d.nearest? = some x := by
  refine Magnitude.nearest?_of_eq_toRat (scale_fst_pos hd)
    (scale_snd_pos (by omega) _ (by omega) _) ?_
  rw [scale_eq_toRat, h]

/-- Zeros behind the digits do not change the value. -/
theorem toRat_zeros (x : Digits) (k : Nat) :
    (⟨x.coefficient * 10 ^ k, x.exponent - k⟩ : Digits).toRat = x.toRat := by
  rw [toRat, toRat, zpow_sub₀ (by norm_num), zpow_natCast]
  push_cast
  field_simp

/-- A value is a multiple of any unit below its last digit. -/
theorem exists_toRat_eq_mul {x : Digits} {e : Int} (h : e ≤ x.exponent) :
    ∃ m : Nat, x.toRat = m * (10 : Rat) ^ e := by
  obtain ⟨k, hk⟩ := Int.eq_ofNat_of_zero_le (sub_nonneg.2 h)
  obtain rfl : e = x.exponent - k := by omega
  exact ⟨x.coefficient * 10 ^ k, (x.toRat_zeros k).symm⟩

theorem mod_ten_of_trimmed {x : Digits} (h : x.trimmed.coefficient ≠ 0) :
    x.trimmed.coefficient % 10 ≠ 0 := by
  fun_induction trimmed x with
  | case1 => exact absurd rfl h
  | case2 _ _ _ ih => exact ih h
  | case3 _ _ hmod => exact hmod

/-- Of the digits of a value, those without a zero at the end have the largest exponent. -/
theorem exponent_le_of_toRat_eq {x y : Digits} (hmod : x.coefficient % 10 ≠ 0)
    (h : x.toRat = y.toRat) : y.exponent ≤ x.exponent ∧ x.coefficient ≤ y.coefficient := by
  have hle : y.exponent ≤ x.exponent := by
    by_contra hlt
    obtain ⟨k, hk⟩ := Int.eq_ofNat_of_zero_le (show 0 ≤ y.exponent - x.exponent - 1 by omega)
    refine hmod (Nat.mod_eq_zero_of_dvd ⟨y.coefficient * 10 ^ k, ?_⟩)
    have hexponent : y.exponent = ((k + 1 : Nat) : Int) + x.exponent := by omega
    rw [toRat, toRat, hexponent, zpow_add₀ (by norm_num), zpow_natCast, ← mul_assoc] at h
    have h := mul_right_cancel₀ (zpow_ne_zero _ (by norm_num)) h
    rw [pow_succ'] at h
    have h : x.coefficient = y.coefficient * (10 * 10 ^ k) := by exact_mod_cast h
    rw [h]
    ring
  refine ⟨hle, ?_⟩
  obtain ⟨k, hk⟩ := Int.eq_ofNat_of_zero_le (sub_nonneg.2 hle)
  have hexponent : x.exponent = (k : Int) + y.exponent := by omega
  rw [toRat, toRat, hexponent, zpow_add₀ (by norm_num), zpow_natCast, ← mul_assoc] at h
  have h := mul_right_cancel₀ (zpow_ne_zero _ (by norm_num)) h
  have h : x.coefficient * 10 ^ k = y.coefficient := by exact_mod_cast h
  rw [← h]
  exact Nat.le_mul_of_pos_right _ (by positivity)

theorem exponent_lt {x : Digits} (hx : 0 < x.coefficient) {e : Int}
    (h : x.toRat < (10 : Rat) ^ e) : x.exponent < e := by
  have hone : (1 : Rat) ≤ x.coefficient := by exact_mod_cast hx
  have hunit : (0 : Rat) < 10 ^ x.exponent := by positivity
  have : (10 : Rat) ^ x.exponent < 10 ^ e := (le_mul_of_one_le_left hunit.le hone).trans_lt h
  exact (zpow_lt_zpow_iff_right₀ (by norm_num)).1 this

end Digits

namespace Magnitude

theorem quotient_eq_toRat (x : Magnitude) : (x.quotient.1 / x.quotient.2 : Rat) = x.toRat := by
  rw [quotient, scale_quotient (by omega), toRat, Nat.cast_one, div_one, Nat.cast_ofNat]

/-- The unit of the last of so many digits of a magnitude. -/
def lastDigit (x : Magnitude) (places : Nat) : Int := Int.log 10 x.toRat + 1 - places

section

variable {x : Magnitude}

theorem quotient_pos (hx : 0 < x.mantissa) : 0 < x.quotient.1 ∧ 0 < x.quotient.2 := by
  refine ⟨?_, scale_snd_pos (by omega) _ (by omega) _⟩
  unfold quotient scale
  split <;> positivity

theorem neighbours_eq (hx : 0 < x.mantissa) (places : Nat) :
    let s := scale 10 x.quotient.1 x.quotient.2 (-x.lastDigit places)
    ∃ far ≤ s.1 / s.2 + 1, x.neighbours places =
      [⟨roundDiv s.1 s.2, x.lastDigit places⟩, ⟨far, x.lastDigit places⟩] := by
  obtain ⟨hnum, hden⟩ := quotient_pos hx
  have hplace : floorLog10 x.quotient.1 x.quotient.2 + 1 - places = x.lastDigit places := by
    rw [floorLog10_eq_log hnum hden, quotient_eq_toRat, lastDigit]
  rw [neighbours, hplace]
  refine ⟨_, ?_, rfl⟩
  split
  · exact le_rfl
  · exact Nat.le_succ _

theorem exponent_of_mem_neighbours (hx : 0 < x.mantissa) {places : Nat} {d : Digits}
    (hd : d ∈ x.neighbours places) : d.exponent = x.lastDigit places := by
  obtain ⟨far, -, hneighbours⟩ := neighbours_eq hx places
  rw [hneighbours, List.mem_pair] at hd
  obtain rfl | rfl := hd <;> rfl

/-- A value that is less than half a unit away is a neighbour. -/
theorem mem_neighbours (hx : x.IsNormal) {places m : Nat}
    (hnear : |m * (10 : Rat) ^ x.lastDigit places - x.toRat| * 2 < 10 ^ x.lastDigit places) :
    ⟨m, x.lastDigit places⟩ ∈ x.neighbours places := by
  have hmantissa := hx.mantissa_pos
  obtain ⟨far, -, hneighbours⟩ := neighbours_eq hmantissa places
  rw [hneighbours]
  generalize x.lastDigit places = e at *
  have hpos : (0 : Rat) < 10 ^ e := by positivity
  have hround : roundDiv (scale 10 x.quotient.1 x.quotient.2 (-e)).1
      (scale 10 x.quotient.1 x.quotient.2 (-e)).2 = m := by
    refine roundDiv_eq_of_abs_lt (scale_snd_pos (by omega) _ (quotient_pos hmantissa).2 _) ?_
    rw [scale_quotient (by omega), quotient_eq_toRat, Nat.cast_ofNat]
    have hunits : m * (10 : Rat) ^ e - x.toRat = (m - x.toRat * 10 ^ (-e)) * 10 ^ e := by
      rw [sub_mul, mul_assoc x.toRat, ← zpow_add₀ (by norm_num), neg_add_cancel, zpow_zero, mul_one]
    rw [hunits, abs_mul, abs_of_pos hpos] at hnear
    refine lt_of_mul_lt_mul_right ?_ hpos.le
    linarith only [hnear]
  rw [hround]
  exact List.mem_cons_self

/-! ## The search -/

/-- A search over numbers finds something no later than at the first of them that has it. -/
theorem exists_findSome?_range {β : Type} {f : Nat → Option β} {k n : Nat} (hk : k < n)
    (h : (f k).isSome) : ∃ j ≤ k, ∃ b, f j = some b ∧ (List.range n).findSome? f = some b := by
  induction n with
  | zero => omega
  | succ n ih =>
    rw [List.range_succ, List.findSome?_append]
    obtain hlt | rfl := Nat.lt_succ_iff_lt_or_eq.1 hk
    · obtain ⟨j, hj, b, hb, hfound⟩ := ih hlt
      exact ⟨j, hj, b, hb, by rw [hfound, Option.some_or]⟩
    · cases hfound : (List.range k).findSome? f with
      | some b =>
        obtain ⟨j, hj, hb⟩ := List.exists_of_findSome?_eq_some hfound
        exact ⟨j, (List.mem_range.1 hj).le, b, hb, rfl⟩
      | none =>
        obtain ⟨b, hb⟩ := Option.isSome_iff_exists.1 h
        exact ⟨k, le_rfl, b, hb, by simp [hb]⟩

/-- If a neighbour of so many digits is read back as the magnitude, the shortest digits are those of
a neighbour of no more digits that is. -/
theorem exists_shortest {places : Nat} (hplaces : places < 17) {d : Digits}
    (hd : d ∈ x.neighbours (places + 1)) (hnearest : d.nearest? = some x) :
    ∃ k ≤ places, ∃ d' ∈ x.neighbours (k + 1), d'.nearest? = some x ∧
      x.shortest = d'.trimmed := by
  have hsome : ((x.neighbours (places + 1)).find? fun d => d.nearest? = some x).isSome :=
    List.find?_isSome.2 ⟨d, hd, by simpa using hnearest⟩
  obtain ⟨k, hk, d', hfind, hfound⟩ := exists_findSome?_range
    (f := fun k => (x.neighbours (k + 1)).find? fun d => d.nearest? = some x) hplaces hsome
  refine ⟨k, hk, d', List.mem_of_find?_eq_some hfind, by simpa using List.find?_some hfind, ?_⟩
  rw [shortest, hfound, Option.getD_some]

theorem mod_ten_of_shortest (h : x.shortest.coefficient ≠ 0) : x.shortest.coefficient % 10 ≠ 0 :=
  Digits.mod_ten_of_trimmed h

/-- A magnitude lies between two powers of ten. -/
theorem toRat_bounds (hx : x.IsNormal) :
    10 ^ 14 * (10 : Rat) ^ x.lastDigit 15 ≤ x.toRat ∧
      x.toRat < 10 ^ 15 * (10 : Rat) ^ x.lastDigit 15 := by
  have hlow := Int.zpow_log_le_self (b := 10) (by norm_num) hx.toRat_pos
  have hhigh := Int.lt_zpow_succ_log_self (b := 10) (by norm_num) x.toRat
  rw [Nat.cast_ofNat] at hlow hhigh
  rw [← zpow_natCast, ← zpow_natCast, ← zpow_add₀ (by norm_num), ← zpow_add₀ (by norm_num)]
  have h₁ : (14 : Nat) + x.lastDigit 15 = Int.log 10 x.toRat := by
    unfold lastDigit
    omega
  have h₂ : (15 : Nat) + x.lastDigit 15 = Int.log 10 x.toRat + 1 := by
    unfold lastDigit
    omega
  rw [h₁, h₂]
  exact ⟨hlow, hhigh⟩

/-- A decimal value of 15 digits has no digit below the last of the 15 digits of a magnitude that is
nearest to it. -/
theorem lastDigit_le (hx : x.IsNormal) {d : Digits} (hlt : d.coefficient < 10 ^ 15)
    (herror : |x.toRat - d.toRat| * 2 ^ 53 ≤ x.toRat) : x.lastDigit 15 ≤ d.exponent := by
  by_contra hbelow
  have hlow := (toRat_bounds hx).1
  have hcoefficient : (d.coefficient : Rat) ≤ 10 ^ 15 - 1 := by
    rw [le_sub_iff_add_le]
    exact_mod_cast hlt
  have hunit : (10 : Rat) ^ d.exponent * 10 ≤ 10 ^ x.lastDigit 15 := by
    rw [← zpow_add_one₀ (by norm_num)]
    exact zpow_le_zpow_right₀ (by norm_num) (by omega)
  have hvalue : d.toRat * 10 ≤ (10 ^ 15 - 1) * (10 : Rat) ^ x.lastDigit 15 := by
    rw [Digits.toRat, mul_assoc]
    gcongr
  have hpos : (0 : Rat) < 10 ^ x.lastDigit 15 := by positivity
  linarith only [le_abs_self (x.toRat - d.toRat), herror, hlow, hvalue, hpos]

/-- The shortest digits of the magnitude nearest to a decimal value of 15 digits have that value,
if it is not too small. -/
theorem toRat_shortest {d : Digits} (hpos : 0 < d.coefficient) (hlt : d.coefficient < 10 ^ 15)
    (low : (2 : Rat) ^ (-1020 : Int) ≤ d.toRat) (h : d.nearest? = some x) :
    x.shortest.toRat = d.toRat := by
  have hx : x.IsNormal := isNormal_of_nearest? (Digits.scale_fst_pos hpos)
    (scale_snd_pos (by omega) _ (by omega) _) (by rwa [Digits.scale_eq_toRat]) h
  have herror {d : Digits} (h : d.nearest? = some x) :
      |x.toRat - d.toRat| * 2 ^ 53 ≤ x.toRat := by
    have := hx.abs_sub_mul_le (scale_snd_pos (by omega) _ (by omega) _) h
    rwa [Digits.scale_eq_toRat] at this
  obtain ⟨-, hhigh⟩ := toRat_bounds hx
  have hunit : (0 : Rat) < 10 ^ x.lastDigit 15 := by positivity
  -- the value is a neighbour of 15 digits
  obtain ⟨m, hm⟩ := Digits.exists_toRat_eq_mul (lastDigit_le hx hlt (herror h))
  have hmem : ⟨m, x.lastDigit 15⟩ ∈ x.neighbours 15 := by
    refine mem_neighbours hx ?_
    rw [← hm, abs_sub_comm]
    linarith only [herror h, hhigh, hunit]
  have hmpos : 0 < m := by
    refine Nat.pos_of_ne_zero ?_
    rintro rfl
    rw [Nat.cast_zero, zero_mul] at hm
    exact (low.trans_lt' (by positivity)).ne' hm
  have hnearest : Digits.nearest? ⟨m, x.lastDigit 15⟩ = some x :=
    (Digits.nearest?_congr hmpos hpos (x := ⟨m, x.lastDigit 15⟩) hm.symm).trans h
  -- the neighbour that is found is as near, and also a multiple of the unit
  obtain ⟨k, hk, d', hd', hnearest', hshortest⟩ := exists_shortest (by omega) hmem hnearest
  have hplace : x.lastDigit 15 ≤ d'.exponent := by
    rw [exponent_of_mem_neighbours hx.mantissa_pos hd']
    unfold lastDigit
    omega
  obtain ⟨m', hm'⟩ := Digits.exists_toRat_eq_mul hplace
  have heq : m' = m := by
    refine eq_of_abs_sub_add_lt (x := x.toRat) hunit ?_
    rw [← hm, ← hm', abs_sub_comm, abs_sub_comm d.toRat]
    linarith only [herror h, herror hnearest', hhigh, hunit]
  rw [hshortest, Digits.toRat_trimmed, hm', hm, heq]

end

end Magnitude

/-! ## Decimal values in binary64 -/

theorem ten_pow_le (k : Nat) : (10 : Rat) ^ (3 * k) ≤ 2 ^ (10 * k) := by
  rw [pow_mul, pow_mul]
  gcongr
  norm_num

namespace Digits

/-- A value of 15 digits that is neither too small nor too large is in the range of binary64. -/
theorem toRat_range {d : Digits} (hpos : 0 < d.coefficient) (hlt : d.coefficient < 10 ^ 15)
    (hlow : -300 ≤ d.exponent) (hhigh : d.exponent ≤ 282) :
    (2 : Rat) ^ (-1020 : Int) ≤ d.toRat ∧ d.toRat < 10 ^ 297 := by
  have hone : (1 : Rat) ≤ d.coefficient := by exact_mod_cast hpos
  have hcoefficient : (d.coefficient : Rat) < 10 ^ 15 := by exact_mod_cast hlt
  have hunit : (0 : Rat) < 10 ^ d.exponent := by positivity
  rw [toRat]
  constructor
  · calc
      (2 : Rat) ^ (-1020 : Int) ≤ 2 ^ (-1000 : Int) :=
        zpow_le_zpow_right₀ (by norm_num) (by norm_num)
      _ ≤ 10 ^ (-300 : Int) := by
        rw [zpow_neg, zpow_neg, zpow_ofNat, zpow_ofNat]
        exact inv_anti₀ (by positivity) (ten_pow_le 100)
      _ ≤ 10 ^ d.exponent := zpow_le_zpow_right₀ (by norm_num) hlow
      _ ≤ d.coefficient * 10 ^ d.exponent := le_mul_of_one_le_left hunit.le hone
  · calc
      d.coefficient * (10 : Rat) ^ d.exponent < 10 ^ 15 * 10 ^ d.exponent := by gcongr
      _ ≤ 10 ^ 15 * 10 ^ (282 : Int) := by
        gcongr
        norm_num
      _ = 10 ^ 297 := by
        rw [← zpow_natCast, ← zpow_add₀ (by norm_num)]
        rfl

end Digits

/-- A number has a decimal digit for every three binary ones, and one more at most. -/
theorem lt_ten_pow_log2 (n : Nat) : n < 10 ^ (n.log2 / 3 + 1) := by
  calc
    n < 2 ^ (n.log2 + 1) := Nat.lt_log2_self
    _ ≤ 2 ^ (3 * (n.log2 / 3 + 1)) := Nat.pow_le_pow_right (by omega) (by omega)
    _ = 8 ^ (n.log2 / 3 + 1) := Nat.pow_mul 2 3 _
    _ ≤ 10 ^ (n.log2 / 3 + 1) := Nat.pow_le_pow_left (by omega) _

namespace Digits

variable {d : Digits} {x : Magnitude}

/-- A magnitude other than zero is nearest to values other than zero only. -/
theorem coefficient_pos_of_nearest? (hx : 0 < x.mantissa) (h : d.nearest? = some x) :
    0 < d.coefficient := by
  by_contra hzero
  have hscale : (scale 10 d.coefficient 1 d.exponent).1 = 0 := by
    rw [Nat.eq_zero_of_not_pos hzero, scale]
    split <;> simp
  rw [nearest?, hscale] at h
  obtain rfl : Magnitude.zero = x := Option.some.inj h
  exact absurd hx (by decide)

/-- A magnitude other than zero is nearest to values only that are neither very small nor very
large. -/
theorem toRat_bounds_of_nearest? (hx : 0 < x.mantissa) (h : d.nearest? = some x) :
    (10 : Rat) ^ (-400 : Int) < d.toRat ∧ d.toRat < 10 ^ 400 := by
  obtain ⟨hmantissa, hlow, hhigh, -⟩ := x.canonical
  have herror := Magnitude.abs_toRat_sub_le (scale_fst_pos (coefficient_pos_of_nearest? hx h))
    (scale_snd_pos (by omega) _ (by omega) _) h
  rw [scale_eq_toRat] at herror
  obtain ⟨herrorlow, herrorhigh⟩ := abs_le.1 herror
  have hunit : (0 : Rat) < 2 ^ x.exponent := by positivity
  have hone : (2 : Rat) ^ x.exponent ≤ x.toRat := by
    rw [Magnitude.toRat]
    exact le_mul_of_one_le_left hunit.le (by exact_mod_cast hx)
  have hsize : x.toRat ≤ 2 ^ 53 * 2 ^ x.exponent := by
    rw [Magnitude.toRat]
    gcongr
    exact_mod_cast hmantissa.le
  have hten : (2 : Rat) ^ 1200 ≤ 10 ^ 400 := by
    rw [show 1200 = 3 * 400 from rfl, pow_mul]
    gcongr
    norm_num
  constructor
  · calc
      (10 : Rat) ^ (-400 : Int) ≤ 2 ^ (-1200 : Int) := by
        rw [zpow_neg, zpow_neg, zpow_ofNat, zpow_ofNat]
        exact inv_anti₀ (by positivity) hten
      _ < 2 ^ (x.exponent - 1) := zpow_lt_zpow_right₀ (by norm_num) (by omega)
      _ = 2 ^ x.exponent / 2 := zpow_sub_one₀ (by norm_num) _
      _ ≤ d.toRat := by linarith only [herrorhigh, hone]
  · calc
      d.toRat ≤ 2 ^ 54 * 2 ^ x.exponent := by linarith only [herrorlow, hsize, hunit]
      _ = 2 ^ (54 + x.exponent) := by rw [zpow_add₀ (by norm_num), zpow_ofNat]
      _ < 2 ^ (1200 : Int) := zpow_lt_zpow_right₀ (by norm_num) (by omega)
      _ ≤ 10 ^ 400 := by rwa [zpow_ofNat]

end Digits

/-- Decimal digits are read as the magnitude that is nearest to their value. -/
theorem Binary64.ofDecimal_of_nearest? (negative : Bool) {d : Digits} {x : Magnitude}
    (hx : 0 < x.mantissa) (h : d.nearest? = some x) :
    ofDecimal negative d.coefficient d.exponent = finite negative x := by
  have hpos := Digits.coefficient_pos_of_nearest? hx h
  obtain ⟨hlow, hhigh⟩ := Digits.toRat_bounds_of_nearest? hx h
  have hexponent := Digits.exponent_lt hpos (e := 400) (by exact_mod_cast hhigh)
  -- so many digits do not stand so far behind the point
  have hdigits : ¬ d.exponent + (d.coefficient.log2 / 3 + 2 : Nat) < -400 := by
    intro hsmall
    have hcoefficient : (d.coefficient : Rat) < 10 ^ (d.coefficient.log2 / 3 + 1) := by
      exact_mod_cast lt_ten_pow_log2 d.coefficient
    have hvalue : d.toRat < 10 ^ (-400 : Int) := by
      calc
        d.toRat < 10 ^ (d.coefficient.log2 / 3 + 1) * (10 : Rat) ^ d.exponent := by
          rw [Digits.toRat]
          gcongr
        _ ≤ 10 ^ (-400 : Int) := by
          rw [← zpow_natCast, ← zpow_add₀ (by norm_num)]
          exact zpow_le_zpow_right₀ (by norm_num) (by omega)
    linarith only [hlow, hvalue]
  rw [ofDecimal, if_neg hpos.ne', if_neg (by omega), if_neg hdigits]
  rw [Digits.nearest?] at h
  simp only [ofQuotient, h]

/-- The digits of a magnitude. -/
def Magnitude.significant (x : Magnitude) : Digits :=
  if x.mantissa = 0 then ⟨0, 0⟩ else x.shortest

theorem Decimal.ofBinary64_finite (negative : Bool) (x : Magnitude) :
    ofBinary64 (.finite negative x) =
      finite negative x.significant.coefficient x.significant.exponent := by
  rw [ofBinary64, Magnitude.significant]
  split <;> rfl

theorem Magnitude.mantissa_eq_zero {x : Magnitude} (h : x.toRat = 0) : x.mantissa = 0 := by
  have hunit : (2 : Rat) ^ x.exponent ≠ 0 := zpow_ne_zero _ (by norm_num)
  rw [toRat] at h
  exact_mod_cast (mul_eq_zero.1 h).resolve_right hunit

theorem Magnitude.mantissa_pos {x : Magnitude} (h : x.toRat ≠ 0) : 0 < x.mantissa :=
  Nat.pos_of_ne_zero fun hzero => h (by rw [toRat, hzero, Nat.cast_zero, zero_mul])

/-- The digits of a magnitude that is an integer of 15 digits have exactly its value. -/
theorem Magnitude.toRat_significant {x : Magnitude} {n : Nat} (hn : n < 10 ^ 15)
    (h : x.toRat = n) : x.significant.toRat = n := by
  obtain rfl | hpos := Nat.eq_zero_or_pos n
  · rw [significant, if_pos (mantissa_eq_zero (by exact_mod_cast h))]
    simp [Digits.toRat]
  have hvalue : (⟨n, 0⟩ : Digits).toRat = n := by simp [Digits.toRat]
  have hone : (1 : Rat) ≤ n := by exact_mod_cast hpos
  have hmantissa := mantissa_pos (h.trans_ne (Nat.cast_ne_zero.2 hpos.ne'))
  have hnearest := Digits.nearest?_of_toRat_eq (d := ⟨n, 0⟩) hpos (hvalue.trans h.symm)
  have hlow : (2 : Rat) ^ (-1020 : Int) ≤ (⟨n, 0⟩ : Digits).toRat := by
    rw [hvalue]
    exact (zpow_le_one_of_nonpos₀ (by norm_num) (by norm_num)).trans hone
  rw [significant, if_neg hmantissa.ne', toRat_shortest hpos hn hlow hnearest, hvalue]

/-- A decimal value of 15 digits that is neither too small nor too large passes through binary64
unchanged; its digits lose zeros at most. -/
theorem Binary64.exists_ofDecimal (negative : Bool) {d : Digits} (hlt : d.coefficient < 10 ^ 15)
    (hlow : -300 ≤ d.exponent) (hhigh : d.exponent ≤ 282) :
    ∃ x, ofDecimal negative d.coefficient d.exponent = finite negative x ∧
      x.significant.toRat = d.toRat ∧ x.significant.coefficient ≤ d.coefficient ∧
      -300 ≤ x.significant.exponent ∧ x.significant.exponent < 297 := by
  obtain hzero | hpos := Nat.eq_zero_or_pos d.coefficient
  · refine ⟨.zero, ?_, ?_, Nat.zero_le _, ?_, ?_⟩
    · rw [hzero]
      rfl
    · simp [Digits.toRat, hzero, Magnitude.significant, Magnitude.zero]
    · norm_num [Magnitude.significant, Magnitude.zero]
    · norm_num [Magnitude.significant, Magnitude.zero]
  obtain ⟨low, high⟩ := Digits.toRat_range hpos hlt hlow hhigh
  obtain ⟨x, hx⟩ : ∃ x, d.nearest? = some x := by
    refine Magnitude.exists_nearest? (Digits.scale_fst_pos hpos)
      (scale_snd_pos (by omega) _ (by omega) _) ?_
    rw [Digits.scale_eq_toRat]
    refine high.trans_le ((ten_pow_le 99).trans ?_)
    exact pow_le_pow_right₀ (by norm_num) (by norm_num)
  have hnormal : x.IsNormal := Magnitude.isNormal_of_nearest? (Digits.scale_fst_pos hpos)
    (scale_snd_pos (by omega) _ (by omega) _) (by rwa [Digits.scale_eq_toRat]) hx
  have hsignificant : x.significant = x.shortest := if_neg hnormal.mantissa_pos.ne'
  have hvalue := Magnitude.toRat_shortest hpos hlt low hx
  have hnonzero : x.shortest.coefficient ≠ 0 := by
    intro hzero
    rw [Digits.toRat, hzero, Nat.cast_zero, zero_mul] at hvalue
    exact (low.trans_lt' (by positivity)).ne hvalue
  obtain ⟨hexponent, hcoefficient⟩ := Digits.exponent_le_of_toRat_eq
    (Magnitude.mod_ten_of_shortest hnonzero) hvalue
  refine ⟨x, ofDecimal_of_nearest? negative hnormal.mantissa_pos hx, ?_⟩
  rw [hsignificant]
  refine ⟨hvalue, hcoefficient, hlow.trans hexponent, ?_⟩
  refine Digits.exponent_lt (Nat.pos_of_ne_zero hnonzero) ?_
  rw [hvalue]
  exact_mod_cast high

end Billing
