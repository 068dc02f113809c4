import Billing.Proofs.Number.Printing
import Billing.Proofs.Number.Written

/-!
# Texts read back

The digits that a binary64 number is written with are sought among those that read back as it, and
if there are none of 17 digits, all of its digits are written. Either way, nothing is lost.

* `Magnitude.nearest?_shortest`: the shortest digits of a magnitude are nearest to it.
* `Magnitude.exponent_shortest_neg`: those of a fraction reach behind the point.
* `Binary64.read?_text`: the text of a finite number reads back as the number, also of a zero.
* `Binary64.read?_digits`: the digits of an integer read back as the number of this value.
-/

namespace Billing

open Text (isDigit)

/-! ## Digits -/

namespace Magnitude

variable {x : Magnitude}

theorem nearest?_exactDigits (hx : 0 < x.mantissa) : x.exactDigits.nearest? = some x := by
  have hpos : 0 < x.exactDigits.coefficient := by
    unfold exactDigits
    split <;> positivity
  exact Digits.nearest?_of_toRat_eq hpos x.toRat_exactDigits

/-- The shortest digits of a magnitude read back as it. -/
theorem nearest?_shortest (hx : 0 < x.mantissa) : x.shortest.nearest? = some x := by
  obtain ⟨d, hshortest, hd⟩ := x.exists_shortest_eq
  have hnearest : d.nearest? = some x := by
    obtain rfl | ⟨-, hnearest⟩ := hd
    · exact nearest?_exactDigits hx
    · exact hnearest
  have hd := Digits.coefficient_pos_of_nearest? hx hnearest
  have htrimmed : 0 < d.trimmed.coefficient := by
    have hvalue := d.toRat_trimmed
    refine Nat.pos_of_ne_zero fun hzero => ?_
    rw [Digits.toRat, hzero, Nat.cast_zero, zero_mul, Digits.toRat, eq_comm, mul_eq_zero] at hvalue
    exact hvalue.elim (by exact_mod_cast hd.ne') (zpow_ne_zero _ (by norm_num))
  rw [hshortest, Digits.nearest?_congr htrimmed hd d.toRat_trimmed, hnearest]

/-- Digits that read back as a magnitude and are a multiple of its unit have its value: the next
multiple is a whole unit away. -/
theorem toRat_eq_of_nearest? {d : Digits} {n : Nat} (hx : 0 < x.mantissa)
    (hd : d.toRat = n * 2 ^ x.exponent) (h : d.nearest? = some x) : x.toRat = d.toRat := by
  have hdistance := abs_toRat_sub_le
    (Digits.scale_fst_pos (Digits.coefficient_pos_of_nearest? hx h))
    (Number.scale_snd_pos (by omega) _ one_pos _) h
  have hunit : (0 : Rat) < 2 ^ x.exponent := by positivity
  rw [Digits.scale_eq_toRat, hd, toRat, ← sub_mul, abs_mul, abs_of_pos hunit] at hdistance
  have hnear : |(x.mantissa : Rat) - n| ≤ 1 / 2 :=
    le_of_mul_le_mul_right (by linarith) hunit
  obtain ⟨hlow, hhigh⟩ := abs_le.1 hnear
  have hlt : x.mantissa < n + 1 := by
    exact_mod_cast (by linarith : (x.mantissa : Rat) < n + 1)
  have hgt : n < x.mantissa + 1 := by
    exact_mod_cast (by linarith : (n : Rat) < x.mantissa + 1)
  obtain rfl : n = x.mantissa := by omega
  rw [hd, toRat]

/-- The shortest digits of a magnitude that is no integer reach behind the point. -/
theorem exponent_shortest_neg (h : ∀ n : Nat, x.toRat ≠ n) : x.shortest.exponent < 0 := by
  have hx := mantissa_pos (by simpa using h 0)
  have hexponent : x.exponent < 0 := by
    by_contra! hle
    obtain ⟨k, hk⟩ := Int.eq_ofNat_of_zero_le hle
    refine h (x.mantissa * 2 ^ k) ?_
    rw [toRat, hk, zpow_natCast]
    push_cast
    rfl
  obtain ⟨k, hk⟩ := Int.eq_ofNat_of_zero_le (show 0 ≤ -x.exponent by omega)
  by_contra! hle
  obtain ⟨n, hn⟩ := Digits.exists_toRat_eq_mul hle
  rw [zpow_zero, mul_one] at hn
  refine h n ?_
  rw [← hn]
  refine toRat_eq_of_nearest? hx (n := n * 2 ^ k) ?_ (nearest?_shortest hx)
  rw [hn, ← neg_neg x.exponent, hk, zpow_neg, zpow_natCast]
  push_cast
  field_simp

/-- Zero has a single representation. -/
theorem eq_zero (hx : x.mantissa = 0) : x = zero := by
  obtain ⟨m, e, canonical⟩ := x
  obtain rfl : m = 0 := hx
  obtain rfl : e = -1074 := canonical.2.2.2.resolve_left (by norm_num)
  rfl

end Magnitude

namespace Binary64

/-- The digits of a magnitude, perhaps with zeros behind them, read back as it. -/
theorem ofDecimal_significant (negative : Bool) (x : Magnitude) (k : Nat) :
    ofDecimal negative (x.significant.coefficient * 10 ^ k) (x.significant.exponent - k) =
      finite negative x := by
  obtain hzero | hx := Nat.eq_zero_or_pos x.mantissa
  · rw [Magnitude.significant, if_pos hzero, Magnitude.eq_zero hzero, ofDecimal,
      if_pos (Nat.zero_mul _)]
    rfl
  · rw [Magnitude.significant, if_neg hx.ne']
    have hnearest := Magnitude.nearest?_shortest hx
    have hpos := Digits.coefficient_pos_of_nearest? hx hnearest
    refine ofDecimal_of_nearest? negative hx (d := ⟨_, _⟩) ?_
    rw [Digits.nearest?_congr (by positivity) hpos (x.shortest.toRat_zeros k), hnearest]

/-! ## Texts -/

/-- A text that starts with a digit, or with a sign and a digit, is read as a numeral. -/
theorem read?_of_isDigit {s rest : List Char} {negative : Bool} {c : Char}
    (hs : ∀ c ∈ s, isMargin c = false ∧ c ≠ '_')
    (hsign : Numeral.readSign s = (negative, c :: rest)) (hc : c.isDigit) :
    read? s = (Numeral.read? s).map Numeral.toBinary64 := by
  obtain ⟨hi, hn⟩ : c.toLower ≠ 'i' ∧ c.toLower ≠ 'n' :=
    Text.of_isDigit (p := fun c => c.toLower ≠ 'i' ∧ c.toLower ≠ 'n') (by decide) hc
  have hname {name : String}
      (hhead : name.toList.head? = some 'i' ∨ name.toList.head? = some 'n') :
      String.ofList (lowercase (c :: rest)) ≠ name := by
    rintro rfl
    simp [lowercase, hi, hn] at hhead
  simp only [read?, withoutMargins?_of_forall hs, Option.bind_some, hsign]
  rw [if_neg (not_or.2 ⟨hname (by decide), hname (by decide)⟩), if_neg (hname (by decide))]

/-- What is set out with a sign and starts with a digit is read as a numeral. -/
theorem read?_signed (negative : Bool) {s : List Char} (some : s ≠ [])
    (hhead : ∀ c ∈ s.head?, c.isDigit) (hs : ∀ c ∈ s, isMargin c = false ∧ c ≠ '_') :
    read? (Number.signed negative s).toList =
      (Numeral.read? (if negative then '-' :: s else s)).map Numeral.toBinary64 := by
  obtain ⟨c, rest, rfl⟩ := List.exists_cons_of_ne_nil some
  have hc : c.isDigit := hhead c rfl
  have hsign := Numeral.readSign_signed negative some (by simpa using Text.isDigit_of_isDigit hc)
  rw [Number.signed, String.toList_ofList]
  refine read?_of_isDigit ?_ hsign hc
  split
  · exact List.forall_mem_cons.2 ⟨by decide, hs⟩
  · exact hs

theorem isMargin_of_isDigit {c : Char} (h : c.isDigit) : isMargin c = false ∧ c ≠ '_' :=
  Text.of_isDigit (p := fun c => isMargin c = false ∧ c ≠ '_') (by decide) h

/-- The text of a finite number reads back as the number. -/
theorem read?_text (negative : Bool) (x : Magnitude) :
    read? (finite negative x).text.toList = some (finite negative x) := by
  obtain ⟨k, hlayout⟩ := exists_isLayout x
  obtain ⟨c, rest, htext, hc⟩ := exists_magnitudeText_eq_cons x
  have hmargin := forall_magnitudeText (p := fun c => isMargin c = false ∧ c ≠ '_')
    (fun c => isMargin_of_isDigit) (by decide) x
  rw [text, textWith, read?_signed negative (by simp [htext]) (by simpa [htext] using hc) hmargin,
    read?_magnitudeText]
  simp only [Option.map_some, Numeral.toBinary64, Numeral.coefficient, Numeral.lastPlace,
    hlayout.digitsValue_append, hlayout.lastPlace, ofDecimal_significant]

/-- The digits of a number are read as the binary64 number nearest to it. -/
theorem read?_digits (negative : Bool) (n : Nat) :
    read? (Number.signed negative (Number.digits n)).toList = some (ofDecimal negative n 0) := by
  have hdigits : ∀ c ∈ Number.digits n, c.isDigit := fun c hc => Number.isDigit_of_mem_digits hc
  rw [read?_signed negative (Number.digits_ne_nil n)
      (fun c hc => hdigits c (List.mem_of_mem_head? hc)) fun c hc =>
        isMargin_of_isDigit (hdigits c hc),
    Numeral.read?_whole _ (Number.digits_ne_nil n) fun c hc =>
      Text.isDigit_of_isDigit (hdigits c hc)]
  simp only [Option.map_some, Numeral.toBinary64, Numeral.coefficient, Numeral.lastPlace,
    List.append_nil, Number.digitsValue_digits, List.length_nil, Nat.cast_zero, sub_self]

/-- An integer that is the value of a magnitude is read as it. -/
theorem ofDecimal_of_toRat_eq (negative : Bool) {x : Magnitude} {n : Nat} (hn : 0 < n)
    (h : x.toRat = n) : ofDecimal negative n 0 = finite negative x := by
  have hvalue : (⟨n, 0⟩ : Digits).toRat = x.toRat := by simp [Digits.toRat, h]
  have hx := Magnitude.mantissa_pos (h.trans_ne (Nat.cast_ne_zero.2 hn.ne'))
  exact ofDecimal_of_nearest? negative hx (d := ⟨n, 0⟩) (Digits.nearest?_of_toRat_eq hn hvalue)

end Binary64

end Billing
