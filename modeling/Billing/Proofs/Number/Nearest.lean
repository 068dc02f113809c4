import Billing.Number.Shortest
import Billing.Proofs.Number.Rounding

/-!
# The nearest magnitude

How far a quotient is from the binary64 magnitude nearest to it. A magnitude with all of its 53
digits (`Magnitude.IsNormal`) is nearest to quotients only that are `2 ^ -53` of it away or less.

* `Magnitude.exists_nearest?`: quotients that are not too large have a nearest magnitude.
* `Magnitude.nearest?_congr`: it depends on the value of the quotient only.
* `Magnitude.nearest?_of_eq_toRat`: a magnitude is the nearest one to its own value.
* `Magnitude.IsNormal.abs_sub_mul_le`: the error of the nearest magnitude.
-/

namespace Billing

open Number

namespace Magnitude

theorem mantissa_exponent_of_of? {m : Nat} {e : Int} {x : Magnitude} (h : of? m e = some x) :
    x.mantissa = m ∧ x.exponent = e := by
  unfold of? at h
  split at h
  · obtain rfl := Option.some.inj h
    exact ⟨rfl, rfl⟩
  · cases h

theorem exists_of? {m : Nat} {e : Int} (h : IsCanonical m e) : ∃ x, of? m e = some x :=
  ⟨_, dif_pos h⟩

/-- A quotient in units of its last place, rounded. -/
def units (n d : Nat) : Nat :=
  let s := scale 2 n d (-lastPlace n d)
  roundDiv s.1 s.2

theorem nearest?_eq {n d : Nat} (hn : 0 < n) :
    nearest? n d =
      if units n d = 2 ^ 53 then of? (2 ^ 52) (lastPlace n d + 1)
      else of? (units n d) (lastPlace n d) :=
  if_neg hn.ne'

theorem abs_units_sub_le (n : Nat) {d : Nat} (hd : 0 < d) :
    |(units n d : Rat) - n / d * 2 ^ (-lastPlace n d)| ≤ 1 / 2 := by
  have hquotient := scale_quotient (by omega : 0 < 2) n d (-lastPlace n d)
  have hround := abs_roundDiv_sub_le (scale 2 n d (-lastPlace n d)).1
    (scale_snd_pos (by omega : 0 < 2) n hd (-lastPlace n d))
  rw [hquotient] at hround
  exact hround

theorem toRat_eq_units {n d : Nat} {x : Magnitude} (hn : 0 < n) (h : nearest? n d = some x) :
    x.toRat = units n d * 2 ^ lastPlace n d ∧ lastPlace n d ≤ x.exponent := by
  rw [nearest?_eq hn] at h
  rw [toRat]
  split at h
  · rename_i hcarry
    obtain ⟨hm, he⟩ := mantissa_exponent_of_of? h
    rw [hm, he, hcarry, zpow_add_one₀ (by norm_num)]
    refine ⟨?_, by omega⟩
    push_cast
    ring
  · obtain ⟨hm, he⟩ := mantissa_exponent_of_of? h
    rw [hm, he]
    exact ⟨rfl, le_rfl⟩

/-- The nearest magnitude is half a unit of its last place away or less. -/
theorem abs_toRat_sub_le {n d : Nat} {x : Magnitude} (hn : 0 < n) (hd : 0 < d)
    (h : nearest? n d = some x) : |x.toRat - n / d| ≤ 2 ^ x.exponent / 2 := by
  obtain ⟨hx, he⟩ := toRat_eq_units hn h
  have hpos : (0 : Rat) < 2 ^ lastPlace n d := by positivity
  have hfactor : x.toRat - n / d =
      (units n d - n / d * 2 ^ (-lastPlace n d)) * 2 ^ lastPlace n d := by
    rw [hx, sub_mul, mul_assoc, ← zpow_add₀ (by norm_num), neg_add_cancel, zpow_zero, mul_one]
  have hle : (2 : Rat) ^ lastPlace n d ≤ 2 ^ x.exponent := zpow_le_zpow_right₀ (by norm_num) he
  rw [hfactor, abs_mul, abs_of_pos hpos]
  calc
    _ ≤ 1 / 2 * (2 : Rat) ^ lastPlace n d := by
      gcongr
      exact abs_units_sub_le n hd
    _ ≤ 2 ^ x.exponent / 2 := by linarith only [hle]

theorem lastPlace_congr {n d n' d' : Nat} (hn : 0 < n) (hd : 0 < d) (hn' : 0 < n') (hd' : 0 < d')
    (h : (n / d : Rat) = n' / d') : lastPlace n d = lastPlace n' d' := by
  rw [lastPlace, lastPlace, floorLog2_eq_log hn hd, floorLog2_eq_log hn' hd', h]

/-- What magnitude is nearest to a quotient depends on its value only. -/
theorem nearest?_congr {n d n' d' : Nat} (hn : 0 < n) (hd : 0 < d) (hn' : 0 < n') (hd' : 0 < d')
    (h : (n / d : Rat) = n' / d') : nearest? n d = nearest? n' d' := by
  have hplace := lastPlace_congr hn hd hn' hd' h
  have hunits : units n d = units n' d' := by
    refine roundDiv_congr (scale_snd_pos (by omega) n hd _) (scale_snd_pos (by omega) n' hd' _) ?_
    rw [scale_quotient (by omega), scale_quotient (by omega), h, hplace]
  rw [nearest?_eq hn, nearest?_eq hn', hunits, hplace]

/-- The last place that is kept of a magnitude's own value is its exponent. -/
theorem lastPlace_of_eq_toRat {n d : Nat} {x : Magnitude} (hn : 0 < n) (hd : 0 < d)
    (h : (n / d : Rat) = x.toRat) : lastPlace n d = x.exponent := by
  obtain ⟨hhigh, hlow, -, hfull⟩ := x.canonical
  have hpos : 0 < x.toRat := by
    rw [← h]
    positivity
  have hunit : (0 : Rat) < 2 ^ x.exponent := by positivity
  have hupper : Int.log 2 x.toRat < 53 + x.exponent := by
    refine (Int.lt_zpow_iff_log_lt (by norm_num) hpos).1 ?_
    rw [toRat, Nat.cast_ofNat, zpow_add₀ (by norm_num)]
    exact mul_lt_mul_of_pos_right (by exact_mod_cast hhigh) hunit
  rw [lastPlace, floorLog2_eq_log hn hd, h]
  obtain hfull | hsmall := hfull
  · have hlower : 52 + x.exponent ≤ Int.log 2 x.toRat := by
      refine (Int.zpow_le_iff_le_log (by norm_num) hpos).1 ?_
      rw [toRat, Nat.cast_ofNat, zpow_add₀ (by norm_num)]
      exact mul_le_mul_of_nonneg_right (by exact_mod_cast hfull) hunit.le
    omega
  · omega

/-- A magnitude is the nearest one to its own value. -/
theorem nearest?_of_eq_toRat {n d : Nat} {x : Magnitude} (hn : 0 < n) (hd : 0 < d)
    (h : (n / d : Rat) = x.toRat) : nearest? n d = some x := by
  have hplace := lastPlace_of_eq_toRat hn hd h
  have hunits : units n d = x.mantissa := by
    rw [← roundDiv_one x.mantissa]
    refine roundDiv_congr (scale_snd_pos (by omega) n hd _) one_pos ?_
    rw [scale_quotient (by omega), h, hplace, toRat, mul_assoc, Nat.cast_ofNat,
      ← zpow_add₀ (by norm_num), add_neg_cancel, zpow_zero, mul_one, Nat.cast_one, div_one]
  have hnocarry : x.mantissa ≠ 2 ^ 53 := x.canonical.1.ne
  rw [nearest?_eq hn, hunits, hplace, if_neg hnocarry, of?, dif_pos x.canonical]

/-- There is a nearest magnitude to a quotient that is not too large. -/
theorem exists_nearest? {n d : Nat} (hn : 0 < n) (hd : 0 < d) (h : (n / d : Rat) < 2 ^ 1000) :
    ∃ x, nearest? n d = some x := by
  have hq : (0 : Rat) < n / d := div_pos (by exact_mod_cast hn) (by exact_mod_cast hd)
  have hlow := Int.zpow_log_le_self (b := 2) (by norm_num) hq
  have hhigh := Int.lt_zpow_succ_log_self (b := 2) (by norm_num) (n / d : Rat)
  have hlarge : Int.log 2 (n / d : Rat) < 1000 :=
    (Int.lt_zpow_iff_log_lt (by norm_num) hq).1 (by exact_mod_cast h)
  rw [Nat.cast_ofNat] at hlow hhigh
  have hplace : lastPlace n d = max (Int.log 2 (n / d : Rat) - 52) (-1074) := by
    rw [lastPlace, floorLog2_eq_log hn hd]
  have herror := abs_le.1 (abs_units_sub_le n hd)
  generalize Int.log 2 (n / d : Rat) = k at *
  have hpos : (0 : Rat) < 2 ^ (-lastPlace n d) := by positivity
  -- the quotient is less than 2 ^ 53 units
  have hupper : n / d * (2 : Rat) ^ (-lastPlace n d) < 2 ^ 53 := by
    calc
      _ < (2 : Rat) ^ (k + 1) * 2 ^ (-lastPlace n d) := by gcongr
      _ ≤ 2 ^ (53 : Int) := by
        rw [← zpow_add₀ (by norm_num)]
        exact zpow_le_zpow_right₀ (by norm_num) (by omega)
      _ = 2 ^ 53 := by norm_num
  have hunits : units n d ≤ 2 ^ 53 := by
    have : (units n d : Rat) < 2 ^ 53 + 1 := by linarith only [herror.2, hupper]
    exact Nat.lt_add_one_iff.1 (by exact_mod_cast this)
  rw [nearest?_eq hn]
  split
  · exact exists_of? ⟨by norm_num, by omega, by omega, .inl le_rfl⟩
  · refine exists_of? ⟨by omega, by omega, by omega, ?_⟩
    by_cases hsmall : lastPlace n d = -1074
    · exact .inr hsmall
    · left
      -- and not less than 2 ^ 52 of them
      have hlower : (2 : Rat) ^ 52 ≤ n / d * 2 ^ (-lastPlace n d) := by
        calc
          (2 : Rat) ^ 52 = 2 ^ k * 2 ^ (-lastPlace n d) := by
            rw [← zpow_add₀ (by norm_num), ← zpow_natCast]
            congr 1
            omega
          _ ≤ n / d * 2 ^ (-lastPlace n d) := by gcongr
      have : (2 : Rat) ^ 52 < units n d + 1 := by linarith only [herror.1, hlower]
      exact Nat.lt_add_one_iff.1 (by exact_mod_cast this)

/-- A magnitude with 53 digits. -/
def IsNormal (x : Magnitude) : Prop := 2 ^ 52 ≤ x.mantissa

theorem IsNormal.mantissa_pos {x : Magnitude} (hx : x.IsNormal) : 0 < x.mantissa := by
  unfold IsNormal at hx
  omega

theorem IsNormal.toRat_pos {x : Magnitude} (hx : x.IsNormal) : 0 < x.toRat := by
  have := hx.mantissa_pos
  rw [toRat]
  positivity

/-- A quotient is `2 ^ -53` of the nearest magnitude away or less, if that has all its digits. -/
theorem IsNormal.abs_sub_mul_le {n d : Nat} {x : Magnitude} (hx : x.IsNormal) (hd : 0 < d)
    (h : nearest? n d = some x) : |x.toRat - n / d| * 2 ^ 53 ≤ x.toRat := by
  obtain rfl | hn := Nat.eq_zero_or_pos n
  · obtain rfl : zero = x := Option.some.inj h
    exact absurd hx (Nat.not_le.2 (by decide))
  · have herror := abs_toRat_sub_le hn hd h
    have hmantissa : (2 : Rat) ^ 52 * 2 ^ x.exponent ≤ x.toRat := by
      rw [toRat]
      refine mul_le_mul_of_nonneg_right ?_ (by positivity)
      exact_mod_cast hx
    linarith only [herror, hmantissa]

/-- The magnitudes nearest to quotients that are not too small have all their digits. -/
theorem isNormal_of_nearest? {n d : Nat} {x : Magnitude} (hn : 0 < n) (hd : 0 < d)
    (low : (2 : Rat) ^ (-1020 : Int) ≤ n / d) (h : nearest? n d = some x) : x.IsNormal := by
  by_contra hsmall
  rw [IsNormal, not_le] at hsmall
  obtain ⟨-, -, -, hfull | hexponent⟩ := x.canonical
  · exact absurd hfull (not_le.2 hsmall)
  · have herror := abs_le.1 (abs_toRat_sub_le hn hd h)
    have hvalue : x.toRat ≤ 2 ^ 52 * 2 ^ (-1074 : Int) := by
      rw [toRat, hexponent]
      refine mul_le_mul_of_nonneg_right ?_ (by positivity)
      exact_mod_cast hsmall.le
    rw [hexponent] at herror
    have hpos : (0 : Rat) < 2 ^ (-1074 : Int) := by positivity
    have hsplit : (2 : Rat) ^ (-1020 : Int) = 2 ^ 54 * 2 ^ (-1074 : Int) := by
      rw [← zpow_natCast, ← zpow_add₀ (by norm_num)]
      norm_num
    linarith only [low, herror.1, hvalue, hpos, hsplit]

end Magnitude

end Billing
