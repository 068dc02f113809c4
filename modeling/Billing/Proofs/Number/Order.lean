import Billing.Proofs.Number.Significant
import Billing.Proofs.RoundedAmounts

/-!
# Rounding keeps the order

A result is the multiple of its last place that is nearest to the exact number; the last place
depends on the size of that number, and on the smallest place that can be held. So a larger number
has no smaller result, whether or not it has more digits before the point.

* `Decimal.result`, `Decimal.result_mono`: a larger number has no smaller result.
* `Decimal.toRat_of_rounded_eq_result`: what a rounded number is, whatever its exponent.
* `floorProduct_eq_floor_result`: a product rounded down.
-/

namespace Billing

namespace Number

theorem roundDiv_le_roundDiv {a b a' b' : Nat} (hb : 0 < b) (hb' : 0 < b')
    (h : (a / b : Rat) ≤ a' / b') : roundDiv a b ≤ roundDiv a' b' := by
  by_contra hlt
  have hlt : (roundDiv a' b' : Rat) + 1 ≤ roundDiv a b := by exact_mod_cast not_le.1 hlt
  have herror := abs_le.1 (abs_roundDiv_sub_le a hb)
  have herror' := abs_le.1 (abs_roundDiv_sub_le a' hb')
  -- only one number is half a unit away from both
  have hsame : (a / b : Rat) = a' / b' :=
    le_antisymm h (by linarith only [hlt, herror.2, herror'.1])
  rw [roundDiv_congr hb hb' hsame] at hlt
  linarith only [hlt]

end Number

namespace Decimal

/-- The multiple of `10 ^ k` that is nearest to a number that is not negative; a half goes to the
even one. -/
def nearestMultiple (k : Int) (x : Rat) : Rat :=
  Number.roundDiv (x * 10 ^ (-k)).num.natAbs (x * 10 ^ (-k)).den * 10 ^ k

/-- The place of the last digit of the result for a number. -/
def resultPlace (x : Rat) : Int := max (lastPlace x) minPlace

/-- The result for a number that is not negative. -/
def result (x : Rat) : Rat := nearestMultiple (resultPlace x) x

theorem nearestMultiple_nonneg (k : Int) (x : Rat) : 0 ≤ nearestMultiple k x := by
  unfold nearestMultiple
  positivity

theorem nearestMultiple_eq {k : Int} {x : Rat} {a b : Nat} (hb : 0 < b)
    (h : (a / b : Rat) = x * 10 ^ (-k)) :
    nearestMultiple k x = Number.roundDiv a b * 10 ^ k := by
  rw [nearestMultiple, Number.roundDiv_num_den hb h]

/-- A multiple stays as it is. -/
theorem nearestMultiple_mul_zpow (n : Nat) (k : Int) :
    nearestMultiple k (n * 10 ^ k) = n * 10 ^ k := by
  have hunits : ((n : Nat) / (1 : Nat) : Rat) = n * 10 ^ k * 10 ^ (-k) := by
    rw [Nat.cast_one, div_one, mul_assoc, ← zpow_add₀ (by norm_num), add_neg_cancel, zpow_zero,
      mul_one]
  rw [nearestMultiple_eq one_pos hunits, Number.roundDiv_one]

/-- So does a power of ten that does not stand below the place. -/
theorem nearestMultiple_zpow {k m : Int} (h : k ≤ m) : nearestMultiple k (10 ^ m) = 10 ^ m := by
  obtain ⟨j, rfl⟩ := Int.le.dest h
  have hpower : (10 : Rat) ^ (k + j) = (10 ^ j : Nat) * 10 ^ k := by
    rw [zpow_add₀ (by norm_num), zpow_natCast, mul_comm, Nat.cast_pow, Nat.cast_ofNat]
  rw [hpower, nearestMultiple_mul_zpow]

theorem result_zero : result 0 = 0 := by
  simpa [result] using nearestMultiple_mul_zpow 0 (resultPlace 0)

theorem result_nonneg (x : Rat) : 0 ≤ result x := nearestMultiple_nonneg _ _

theorem nearestMultiple_mono (k : Int) {x y : Rat} (hx : 0 ≤ x) (h : x ≤ y) :
    nearestMultiple k x ≤ nearestMultiple k y := by
  have hnum {z : Rat} (hz : 0 ≤ z) : (z.num.natAbs / z.den : Rat) = z := by
    rw [Nat.cast_natAbs, abs_of_nonneg (Rat.num_nonneg.2 hz), Rat.num_div_den]
  have hle : x * 10 ^ (-k) ≤ y * 10 ^ (-k) := by gcongr
  have hround := Number.roundDiv_le_roundDiv (x * 10 ^ (-k)).den_pos (y * 10 ^ (-k)).den_pos (by
    rw [hnum (by positivity), hnum (mul_nonneg (hx.trans h) (by positivity))]
    exact hle)
  unfold nearestMultiple
  gcongr

/-- Where one number has more digits before the point than another, a power of ten lies between
them, and between their results. -/
theorem result_mono {x y : Rat} (hx : 0 ≤ x) (h : x ≤ y) : result x ≤ result y := by
  obtain rfl | hpos := hx.eq_or_lt
  · rw [result_zero]
    exact result_nonneg y
  have hy : 0 < y := hpos.trans_le h
  have hxlog := Int.lt_zpow_succ_log_self (b := 10) (by norm_num) |x|
  have hylog := Int.zpow_log_le_self (b := 10) (by norm_num) (abs_pos.2 hy.ne')
  have hlog : Int.log 10 |x| ≤ Int.log 10 |y| := by
    rw [abs_of_pos hpos, abs_of_pos hy]
    exact Int.log_mono_right hpos h
  have hprecision : precision = 28 := rfl
  obtain hsame | hless : resultPlace x = resultPlace y ∨ Int.log 10 |x| < Int.log 10 |y| ∧
      resultPlace x ≤ Int.log 10 |y| ∧ resultPlace y ≤ Int.log 10 |y| := by
    unfold resultPlace lastPlace
    omega
  · rw [result, result, ← hsame]
    exact nearestMultiple_mono _ hx h
  obtain ⟨hdigits, hxplace, hyplace⟩ := hless
  rw [abs_of_pos hpos] at hxlog hdigits
  rw [abs_of_pos hy] at hylog hdigits hxplace hyplace
  have hlow : x ≤ 10 ^ Int.log 10 y := by
    calc
      x ≤ (10 : Rat) ^ (Int.log 10 x + 1) := by exact_mod_cast hxlog.le
      _ ≤ 10 ^ Int.log 10 y := zpow_le_zpow_right₀ (by norm_num) hdigits
  have hhigh : 10 ^ Int.log 10 y ≤ y := by exact_mod_cast hylog
  calc
    nearestMultiple (resultPlace x) x
      ≤ nearestMultiple (resultPlace x) (10 ^ Int.log 10 y) := nearestMultiple_mono _ hx hlow
    _ = 10 ^ Int.log 10 y := nearestMultiple_zpow hxplace
    _ = nearestMultiple (resultPlace y) (10 ^ Int.log 10 y) := (nearestMultiple_zpow hyplace).symm
    _ ≤ nearestMultiple (resultPlace y) y := nearestMultiple_mono _ (by positivity) hhigh

/-! ## Results -/

/-- The digits that a result keeps of a coefficient, and their place. -/
def kept (c : Nat) (e : Int) : Nat × Int :=
  let place := max (e + (Number.digitCount c - precision : Nat)) minPlace
  if e < place then (rescale c (place - e).toNat, place) else (c, e)

/-- A result has the value of the digits that are kept, unless its exponent is too large. Where all
of these are nines that are rounded up, it has one digit more, a zero. -/
theorem exists_rounded_eq_kept (negative : Bool) {c : Nat} (hc : c ≠ 0) (e : Int) :
    ∃ (c' : Nat) (e' : Int), (c' : Rat) * 10 ^ e' = (kept c e).1 * 10 ^ (kept c e).2 ∧
      rounded negative c e =
        if c' ≠ 0 && maxExponent < e' + (Number.digitCount c' : Int) - 1 then
          .error .decimalOverflow
        else .ok (finite negative c' e') := by
  generalize hpair : kept c e = pair
  obtain ⟨c', e'⟩ := pair
  dsimp only [kept] at hpair
  rw [rounded, if_neg hc]
  dsimp only
  rw [hpair]
  dsimp only
  by_cases hlong : c' = 10 ^ precision
  · rw [if_pos hlong]
    refine ⟨10 ^ (precision - 1), e' + 1, ?_, rfl⟩
    rw [hlong, zpow_add_one₀ (by norm_num)]
    norm_num [precision]
    ring
  · rw [if_neg hlong]
    exact ⟨c', e', rfl, rfl⟩

theorem toRat_of_rounded_eq_kept {negative : Bool} {c : Nat} {e : Int} {x : Decimal} (hc : c ≠ 0)
    (h : rounded negative c e = .ok x) :
    x.toRat = (if negative then -1 else 1) * ((kept c e).1 * 10 ^ (kept c e).2) := by
  obtain ⟨c', e', hvalue, hrounded⟩ := exists_rounded_eq_kept negative hc e
  rw [hrounded] at h
  split at h
  · cases h
  · obtain rfl := Except.ok.inj h
    rw [toRat, mul_assoc, hvalue]

theorem kept_eq_nearestMultiple {c : Nat} (hc : 0 < c) (e : Int) :
    ((kept c e).1 * 10 ^ (kept c e).2 : Rat) =
      nearestMultiple (resultPlace (c * 10 ^ e)) (c * 10 ^ e) := by
  have hplace : lastPlace (c * 10 ^ e) = e + Number.digitCount c - precision := by
    have hlog := log_toRat_finite false hc e
    simp only [toRat, Bool.false_eq_true, if_false, one_mul] at hlog
    rw [lastPlace, hlog]
    omega
  unfold kept
  generalize hkept : max (e + ((Number.digitCount c - precision : Nat) : Int)) minPlace = place
  dsimp only
  split
  · -- digits are dropped
    obtain ⟨j, rfl⟩ : ∃ j : Nat, place = e + j := ⟨(place - e).toNat, by omega⟩
    have hresult : resultPlace (c * 10 ^ e) = e + j := by
      rw [resultPlace, hplace]
      omega
    rw [hresult, nearestMultiple_eq (by positivity) (div_eq_units c j e), rescale_eq,
      add_sub_cancel_left, Int.toNat_natCast]
  · -- the last digit stands at its place or above it
    obtain ⟨j, hj⟩ := Int.eq_ofNat_of_zero_le
      (show 0 ≤ e - resultPlace (c * 10 ^ e) by rw [resultPlace, hplace]; omega)
    have hmultiple : (c : Rat) * 10 ^ e =
        (c * 10 ^ j : Nat) * 10 ^ resultPlace (c * 10 ^ e) := by
      push_cast
      rw [mul_assoc, ← zpow_natCast, ← zpow_add₀ (by norm_num)]
      congr 2
      omega
    generalize resultPlace (c * 10 ^ e) = k at hmultiple ⊢
    rw [hmultiple, nearestMultiple_mul_zpow]

/-- The result of an operation is that for its exact value, also where the last digit of that
value stands below the smallest place. -/
theorem toRat_of_rounded_eq_result {negative : Bool} {c : Nat} {e : Int} {x : Decimal}
    (hnonneg : 0 ≤ (finite negative c e).toRat) (h : rounded negative c e = .ok x) :
    x.toRat = result (finite negative c e).toRat := by
  obtain rfl | hpos := Nat.eq_zero_or_pos c
  · rw [rounded, if_pos rfl] at h
    obtain rfl := Except.ok.inj h
    simp [toRat, result_zero]
  cases negative with
  | true =>
    have hsign := sign_toRat_finite true hpos e
    rw [if_neg (not_lt.2 hnonneg)] at hsign
    norm_num at hsign
  | false =>
    rw [toRat_of_rounded_eq_kept hpos.ne' h, kept_eq_nearestMultiple hpos]
    simp [result, toRat]

theorem toRat_of_mul_eq_result {x y z : Decimal} (hx : 0 ≤ x.toRat) (hy : 0 ≤ y.toRat)
    (hz : ∃ s c e, z = finite s c e) (h : x.mul y = .ok z) :
    z.toRat = result (x.toRat * y.toRat) := by
  obtain ⟨s, c, e, rfl⟩ := hz
  obtain ⟨⟨_, _, _, rfl⟩, _, _, _, rfl⟩ := exists_of_mul_eq_finite h
  have hvalue := mul_nonneg hx hy
  rw [← toRat_mul_finite] at hvalue ⊢
  exact toRat_of_rounded_eq_result hvalue h

theorem toRat_of_hundredth_eq_result {x z : Decimal} (hx : 0 ≤ x.toRat)
    (hz : ∃ s c e, z = finite s c e) (h : x.hundredth = .ok z) :
    z.toRat = result (x.toRat / 100) := by
  obtain ⟨s, c, e, rfl⟩ := hz
  obtain ⟨t, d, f, rfl⟩ := exists_of_hundredth_eq_finite h
  have hvalue : (finite t d (f - 2)).toRat = (finite t d f).toRat / 100 := by
    rw [toRat, toRat, zpow_sub₀ (by norm_num), mul_div_assoc]
    norm_num
  have hnonneg : 0 ≤ (finite t d (f - 2)).toRat := by
    rw [hvalue]
    positivity
  rw [← hvalue]
  exact toRat_of_rounded_eq_result hnonneg h

end Decimal

/-! ## Products rounded down -/

theorem floorProduct_eq_floor_result {x y : Decimal} {n : Int} (hx : 0 ≤ x.toRat)
    (hy : 0 ≤ y.toRat) (h : floorProduct x y = .ok n) :
    n = ⌊Decimal.result (x.toRat * y.toRat)⌋ := by
  obtain ⟨z, hmul, hfloor⟩ := bind_eq_ok.1 h
  rw [Decimal.floor_eq hfloor,
    Decimal.toRat_of_mul_eq_result hx hy (Decimal.exists_of_floor hfloor) hmul]

end Billing
