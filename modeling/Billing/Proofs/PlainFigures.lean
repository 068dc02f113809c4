import Billing.Proofs.EnteredLines
import Billing.Proofs.Number.ReadBack

/-!
# Plain positional notation

A number is set out plainly if there are digits before its point, or all digits if it has none, and
no zeros but those that hold a place (`WrittenNumber.IsPlain`).

* `WrittenNumber.isPlain_ofNat`, `WrittenNumber.isPlain_ofPlaces`: integers are set out plainly, and
  so are fractions whose last digit is no zero.
* `Decimal.exists_isPlain`: the text of a normalized decimal number without an exponent is plain and
  has its value.
-/

namespace Billing

/-! ## First and last digits -/

namespace Number

theorem getLast?_digits (n : Nat) : (digits n).getLast? = some (Nat.digitChar (n % 10)) := by
  rw [digits_eq]
  obtain hn | hn := Nat.lt_or_ge n 10
  · rw [Nat.toDigits_of_lt_base hn, Nat.mod_eq_of_lt hn]
    rfl
  · rw [Nat.toDigits_of_base_le (by omega) hn, List.getLast?_concat]

/-- No zeros are written in front of a number. -/
theorem head?_digits {n : Nat} (hn : 0 < n) : (digits n).head? ≠ some '0' := by
  rw [digits_eq]
  induction n using Nat.strong_induction_on with
  | h n ih =>
    obtain hlt | hge := Nat.lt_or_ge n 10
    · rw [Nat.toDigits_of_lt_base hlt]
      exact (by decide : ∀ n < 10, 0 < n → [Nat.digitChar n].head? ≠ some '0') n hlt hn
    · rw [Nat.toDigits_of_base_le (by omega) hge,
        List.head?_append_of_ne_nil _ Nat.toDigits_ne_nil]
      exact ih (n / 10) (by omega) (by omega)

theorem digitChar_mod_ne_zero {n : Nat} (h : n % 10 ≠ 0) : Nat.digitChar (n % 10) ≠ '0' :=
  (by decide : ∀ d < 10, d ≠ 0 → Nat.digitChar d ≠ '0') _ (Nat.mod_lt n (by omega)) h

end Number

namespace Binary64

/-- Digits that reach beyond the point are cut at it. -/
theorem positional_of_lt {c places : Nat} (h : places < (Number.digits c).length) :
    positional c places = ((Number.digits c).take ((Number.digits c).length - places),
      (Number.digits c).drop ((Number.digits c).length - places)) := by
  rw [positional, Nat.sub_eq_zero_of_le h, List.replicate_zero, List.nil_append]

/-- Other digits have zeros in front of them, and one before the point. -/
theorem positional_of_le {c places : Nat} (h : (Number.digits c).length ≤ places) :
    positional c places =
      (['0'], List.replicate (places - (Number.digits c).length) '0' ++ Number.digits c) := by
  have hzeros : places + 1 - (Number.digits c).length =
      places - (Number.digits c).length + 1 := by omega
  have hlength : (List.replicate (places + 1 - (Number.digits c).length) '0' ++
      Number.digits c).length - places = 1 := by
    rw [List.length_append, List.length_replicate]
    omega
  rw [positional, hlength, hzeros, List.replicate_succ]
  rfl

end Binary64

/-! ## Plain numbers -/

namespace WrittenNumber

/-- Plain positional notation: digits before the point, without zeros in front of them, and if there
is a point, digits behind it, without zeros at their end. -/
structure IsPlain (n : WrittenNumber) : Prop where
  whole_ne_nil : n.whole ≠ []
  eq_zero_of_head? : n.whole.head? = some '0' → n.whole = ['0']
  getLast?_ne_zero : ∀ f ∈ n.fraction, ∃ c ∈ f.getLast?, c ≠ '0'

/-- An integer in digits. -/
def ofNat (n : Nat) : WrittenNumber where
  whole := Number.digits n
  fraction := none
  allDigits := fun c hc => Number.isDigit_of_mem_digits (by simpa using hc)
  ne_nil := by simpa using Number.digits_ne_nil n

/-- Digits of which the last ones are places after the point. -/
def ofPlaces (c places : Nat) : WrittenNumber where
  whole := (Binary64.positional c places).1
  fraction := some (Binary64.positional c places).2
  allDigits := (Binary64.positional_spec c places).2.1
  ne_nil := List.append_ne_nil_of_left_ne_nil (Binary64.positional_spec c places).1 _

theorem text_ofNat (n : Nat) : (ofNat n).text = Number.digits n := List.append_nil _

theorem text_ofPlaces (c places : Nat) :
    (ofPlaces c places).text =
      (Binary64.positional c places).1 ++ '.' :: (Binary64.positional c places).2 := rfl

theorem value_ofNat (n : Nat) : (ofNat n).value = n := by
  have hdigits : (ofNat n).digits = Number.digits n := List.append_nil _
  rw [value, hdigits, ← Text.digitsValue_eq fun c hc => Number.isDigit_of_mem_digits hc,
    Number.digitsValue_digits]
  exact div_one _

theorem value_ofPlaces (c places : Nat) : (ofPlaces c places).value = c / 10 ^ places := by
  obtain ⟨-, hdigits, hvalue, hlength⟩ := Binary64.positional_spec c places
  have hall : (ofPlaces c places).digits =
      (Binary64.positional c places).1 ++ (Binary64.positional c places).2 := rfl
  have hplaces : (ofPlaces c places).places = places := hlength
  rw [value, hplaces, hall, ← Text.digitsValue_eq hdigits, hvalue]

theorem isPlain_ofNat (n : Nat) : (ofNat n).IsPlain where
  whole_ne_nil := Number.digits_ne_nil n
  eq_zero_of_head? := by
    obtain rfl | hn := Nat.eq_zero_or_pos n
    · exact fun _ => rfl
    · exact fun h => absurd h (Number.head?_digits hn)
  getLast?_ne_zero := nofun

/-- Zeros stand in front of digits only if the digits do not reach to the point. -/
theorem isPlain_ofPlaces {c places : Nat} (hc : c % 10 ≠ 0) (hplaces : 0 < places) :
    (ofPlaces c places).IsPlain := by
  have hlast := Number.getLast?_digits c
  have hhead := Number.head?_digits (n := c) (by omega)
  have hne := Number.digitChar_mod_ne_zero hc
  have hwhole : (ofPlaces c places).whole = (Binary64.positional c places).1 := rfl
  have hfraction : (ofPlaces c places).fraction = some (Binary64.positional c places).2 := rfl
  refine ⟨(Binary64.positional_spec c places).1, ?_, ?_⟩
  · rw [hwhole]
    obtain hlong | hshort := Nat.lt_or_ge places (Number.digits c).length
    · rw [Binary64.positional_of_lt hlong, List.head?_take, if_neg (by omega)]
      exact fun h => absurd h hhead
    · rw [Binary64.positional_of_le hshort]
      exact fun _ => rfl
  · rw [hfraction]
    rintro f ⟨⟩
    refine ⟨_, ?_, hne⟩
    obtain hlong | hshort := Nat.lt_or_ge places (Number.digits c).length
    · rw [Binary64.positional_of_lt hlong, List.getLast?_drop, if_neg (by omega), hlast]
      rfl
    · rw [Binary64.positional_of_le hshort,
        List.getLast?_append_of_ne_nil _ (Number.digits_ne_nil c), hlast]
      rfl

end WrittenNumber

/-! ## Decimal numbers -/

/-- A decimal number without zeros at its end is set out plainly, and with its exact value. -/
theorem Decimal.exists_isPlain (negative : Bool) (c : Nat) (e : Int) :
    ∃ n : WrittenNumber, (finite negative c e).normalize.plainText =
        Number.signed negative n.text ∧ n.IsPlain ∧
      (finite negative c e).toRat = (if negative then -1 else 1) * n.value := by
  have hvalue := toRat_normalize (finite negative c e)
  have hmod := Digits.mod_ten_of_trimmed (x := ⟨c, e⟩)
  have hzero := Digits.exponent_trimmed_of_eq_zero (x := ⟨c, e⟩)
  rw [← hvalue, normalize]
  generalize Digits.trimmed ⟨c, e⟩ = d at hmod hzero ⊢
  obtain ⟨c, e⟩ := d
  dsimp only at hmod hzero ⊢
  rw [plainText, toRat, mul_assoc]
  split
  case isTrue he =>
    obtain ⟨k, rfl⟩ := Int.eq_ofNat_of_zero_le he
    refine ⟨.ofNat (c * 10 ^ k), ?_, WrittenNumber.isPlain_ofNat _, ?_⟩
    · rw [WrittenNumber.text_ofNat, Int.toNat_natCast]
    · rw [WrittenNumber.value_ofNat, zpow_natCast]
      push_cast
      rfl
  case isFalse he =>
    obtain ⟨places, hplaces⟩ := Int.eq_ofNat_of_zero_le (show 0 ≤ -e by omega)
    obtain rfl : e = -places := by omega
    have hc : c % 10 ≠ 0 := hmod fun hc => by omega
    refine ⟨.ofPlaces c places, ?_, WrittenNumber.isPlain_ofPlaces hc (by omega), ?_⟩
    · rw [WrittenNumber.text_ofPlaces, neg_neg, Int.toNat_natCast]
    · rw [WrittenNumber.value_ofPlaces, zpow_neg, zpow_natCast, div_eq_mul_inv]

end Billing
