import Billing.Proofs.Number.Reading
import Billing.Proofs.Number.Size
import Billing.Proofs.Trimming

/-!
# Texts of binary64 numbers

The text of a number has its shortest digits, and more zeros behind them at most. Read as a decimal
number, it has the value of those digits.

* `Binary64.exists_isLayout`: the digits and the exponent of a text.
* `Decimal.exists_read?_text`: the decimal number that a text is read as.
-/

namespace Billing

open Text (isDigit isBlank digitsValue)

/-! ## Layouts -/

namespace Binary64

/-- Integer digits, digits after a point and an exponent that set out digits of a value, with `k`
zeros behind them. -/
structure IsLayout (d : Digits) (whole fraction : List Char) (exponent : Option Int) (k : Nat) :
    Prop where
  whole_ne_nil : whole ≠ []
  whole_isDigit : ∀ c ∈ whole, c.isDigit
  fraction_isDigit : ∀ c ∈ fraction, c.isDigit
  digitsValue_append : digitsValue (whole ++ fraction) = d.coefficient * 10 ^ k
  lastPlace : exponent.getD 0 - fraction.length = d.exponent - k
  /-- Zeros are for the places down to the first one after the point. -/
  zeros : k = 0 ∨ d.exponent - k = -1

theorem isLayout_whole (c e : Nat) :
    IsLayout ⟨c, e⟩ (Number.digits c ++ List.replicate e '0') ['0'] none (e + 1) := by
  have hdigits : ∀ ch ∈ Number.digits c, ch.isDigit :=
    fun ch hch => Number.isDigit_of_mem_digits hch
  constructor
  · simp [Number.digits_ne_nil]
  · exact List.forall_mem_append.2 ⟨hdigits, Text.isDigit_of_mem_zeros⟩
  · simp
  · have hzeros : List.replicate e '0' ++ ['0'] = List.replicate (e + 1) '0' :=
      List.replicate_succ'.symm
    rw [List.append_assoc, hzeros, Text.digitsValue_append_zeros hdigits, Number.digitsValue_digits]
  · simp
  · simp

theorem isLayout_positional (c places : Nat) :
    IsLayout ⟨c, -places⟩ (positional c places).1 (positional c places).2 none 0 := by
  obtain ⟨hwhole, hdigits, hvalue, hlength⟩ := positional_spec c places
  obtain ⟨hwhole', hfraction⟩ := List.forall_mem_append.1 hdigits
  constructor
  · exact hwhole
  · exact hwhole'
  · exact hfraction
  · rw [hvalue, Nat.pow_zero, Nat.mul_one]
  · rw [hlength]
    simp
  · exact .inl rfl

theorem isLayout_exponent (d : Digits) :
    IsLayout d ((Number.digits d.coefficient).take 1) ((Number.digits d.coefficient).drop 1)
      (some (d.exponent + (Number.digits d.coefficient).length - 1)) 0 := by
  have hsome := Number.digits_ne_nil d.coefficient
  have hlength := List.length_pos_iff.2 hsome
  constructor
  · simpa using hsome
  · exact fun c hc => Number.isDigit_of_mem_digits (List.mem_of_mem_take hc)
  · exact fun c hc => Number.isDigit_of_mem_digits (List.mem_of_mem_drop hc)
  · rw [List.take_append_drop, Number.digitsValue_digits, Nat.pow_zero, Nat.mul_one]
  · rw [List.length_drop, Option.getD_some]
    omega
  · exact .inl rfl

theorem exists_isLayout (x : Magnitude) :
    ∃ k, IsLayout x.significant (layout x).1 (layout x).2.1 (layout x).2.2 k := by
  by_cases hzero : x.mantissa = 0
  · rw [Magnitude.significant, layout, if_pos hzero, if_pos hzero]
    exact ⟨_, isLayout_whole 0 0⟩
  · rw [Magnitude.significant, layout, if_neg hzero, if_neg hzero]
    obtain ⟨c, e⟩ := x.shortest
    dsimp only
    split
    · split
      · rename_i he
        obtain ⟨e, rfl⟩ := Int.eq_ofNat_of_zero_le he
        exact ⟨_, isLayout_whole c e⟩
      · obtain ⟨places, hplaces⟩ := Int.eq_ofNat_of_zero_le (show 0 ≤ -e by omega)
        obtain rfl : e = -places := by omega
        rw [neg_neg, Int.toNat_natCast]
        exact ⟨_, isLayout_positional c places⟩
    · exact ⟨_, isLayout_exponent ⟨c, e⟩⟩

/-! ## Texts -/

theorem readExponent?_exponentText (e : Int) :
    Numeral.readExponent? ('e' :: exponentText e) = some e := by
  let ds := List.replicate (2 - (Number.digits e.natAbs).length) '0' ++ Number.digits e.natAbs
  have hdigits : ∀ c ∈ Number.digits e.natAbs, c.isDigit :=
    fun c hc => Number.isDigit_of_mem_digits hc
  have hall : ds.all isDigit := by
    rw [List.all_eq_true]
    exact fun c hc => Text.isDigit_of_isDigit
      (List.forall_mem_append.2 ⟨Text.isDigit_of_mem_zeros, hdigits⟩ c hc)
  have hsome : ds ≠ [] := by simp [ds, Number.digits_ne_nil]
  have hvalue : digitsValue ds = e.natAbs := by
    rw [Text.digitsValue_zeros_append hdigits, Number.digitsValue_digits]
  have hsign : Numeral.readSign (exponentText e) = (decide (e < 0), ds) := by
    by_cases he : e < 0 <;> simp [exponentText, Numeral.readSign, he, ds]
  rw [Numeral.readExponent?, if_pos (.inl rfl), hsign]
  dsimp only
  rw [if_pos ⟨hsome, hall⟩, hvalue]
  by_cases he : e < 0
  · rw [if_pos (decide_eq_true he), Int.ofNat_natAbs_of_nonpos he.le, neg_neg]
  · rw [if_neg (by simpa using he), Int.natAbs_of_nonneg (not_lt.1 he)]

theorem magnitudeText_eq (x : Magnitude) :
    ∃ fraction : Option (List Char), fraction.getD [] = (layout x).2.1 ∧
      magnitudeText id x = (layout x).1 ++ (fraction.map ('.' :: ·)).getD [] ++
        ((layout x).2.2.map fun e => 'e' :: exponentText e).getD [] := by
  unfold magnitudeText
  split
  · rename_i fraction h
    exact ⟨some fraction, by simp [h], by simp [h]⟩
  · rename_i h
    exact ⟨none, by simp [h], by simp [h]⟩
  · rename_i fraction _ _ h
    exact ⟨some fraction, by simp [h], by simp [h]⟩

/-- The text of a magnitude is a numeral. -/
theorem read?_magnitudeText (negative : Bool) (x : Magnitude) :
    Numeral.read? (if negative then '-' :: magnitudeText id x else magnitudeText id x) =
      some ⟨negative, (layout x).1, (layout x).2.1, (layout x).2.2.getD 0⟩ := by
  obtain ⟨k, h⟩ := exists_isLayout x
  obtain ⟨fraction, hfraction, htext⟩ := magnitudeText_eq x
  rw [htext, ← hfraction]
  refine Numeral.read?_append negative fraction _ h.whole_ne_nil
    (fun c hc => Text.isDigit_of_isDigit (h.whole_isDigit c hc)) ?_ ?_ ?_
  · rw [hfraction]
    exact fun c hc => Text.isDigit_of_isDigit (h.fraction_isDigit c hc)
  · cases (layout x).2.2 with
    | none => simp
    | some e =>
      rintro _ ⟨⟩
      decide
  · cases (layout x).2.2 with
    | none => rfl
    | some e => exact readExponent?_exponentText e

/-- A text has digits, points, signs and the letter of the exponent. -/
theorem forall_magnitudeText {p : Char → Prop} (hdigit : ∀ c, c.isDigit → p c)
    (hothers : p '.' ∧ p 'e' ∧ p '+' ∧ p '-') (x : Magnitude) :
    ∀ c ∈ magnitudeText id x, p c := by
  obtain ⟨hpoint, hletter, hplus, hminus⟩ := hothers
  obtain ⟨k, h⟩ := exists_isLayout x
  obtain ⟨fraction, hfraction, htext⟩ := magnitudeText_eq x
  have hwhole : ∀ c ∈ (layout x).1, p c := fun c hc => hdigit c (h.whole_isDigit c hc)
  have hfraction : ∀ c ∈ fraction.getD [], p c :=
    hfraction ▸ fun c hc => hdigit c (h.fraction_isDigit c hc)
  have hexponent (e : Int) : ∀ c ∈ 'e' :: exponentText e, p c := by
    rw [exponentText, List.forall_mem_cons, List.forall_mem_cons, List.forall_mem_append]
    refine ⟨hletter, ?_, fun c hc => hdigit c (Text.isDigit_of_mem_zeros c hc),
      fun c hc => hdigit c (Number.isDigit_of_mem_digits hc)⟩
    split
    · exact hminus
    · exact hplus
  rw [htext, List.forall_mem_append, List.forall_mem_append]
  refine ⟨⟨hwhole, ?_⟩, ?_⟩
  · cases fraction with
    | none => simp
    | some fraction => exact List.forall_mem_cons.2 ⟨hpoint, hfraction⟩
  · cases (layout x).2.2 with
    | none => simp
    | some e => exact hexponent e

theorem exists_magnitudeText_eq_cons (x : Magnitude) :
    ∃ c rest, magnitudeText id x = c :: rest ∧ c.isDigit := by
  obtain ⟨k, h⟩ := exists_isLayout x
  obtain ⟨fraction, -, htext⟩ := magnitudeText_eq x
  obtain ⟨c, whole, hwhole⟩ := List.exists_cons_of_ne_nil h.whole_ne_nil
  have hc := h.whole_isDigit c (by simp [hwhole])
  rw [htext, hwhole]
  exact ⟨c, _, rfl, hc⟩

end Binary64

namespace Decimal

/-- A text that starts with a digit is read as a numeral. -/
theorem read?_of_isDigit {s rest : List Char} {negative : Bool} {c : Char}
    (hs : ∀ c ∈ s, isBlank c = false ∧ c ≠ '_')
    (hsign : Numeral.readSign s = (negative, c :: rest)) (hc : c.isDigit) :
    read? s = (Numeral.read? s).bind Numeral.toDecimal? := by
  have htrim : Text.trim s = s := Text.trim_of_forall fun c hc => (hs c hc).1
  have hfilter : s.filter (· != '_') = s :=
    List.filter_eq_self.2 fun c hc => bne_iff_ne.2 (hs c hc).2
  obtain ⟨hi, hs, hn⟩ : c.toLower ≠ 'i' ∧ c.toLower ≠ 's' ∧ c.toLower ≠ 'n' :=
    Text.of_isDigit (p := fun c => c.toLower ≠ 'i' ∧ c.toLower ≠ 's' ∧ c.toLower ≠ 'n')
      (by decide) hc
  simp [read?, htrim, hfilter, hsign, lowercase, hi, hs.symm, hn.symm]

/-- The text of a binary64 number is read as a decimal number of the same value; its digits may
have more zeros behind them. -/
theorem exists_read?_text (negative : Bool) (x : Magnitude) :
    ∃ k : Nat, read? (Binary64.finite negative x).text.toList =
        some (finite negative (x.significant.coefficient * 10 ^ k) (x.significant.exponent - k)) ∧
      (k = 0 ∨ x.significant.exponent - k = -1) := by
  obtain ⟨k, h⟩ := Binary64.exists_isLayout x
  obtain ⟨c, rest, htext, hdigit⟩ := Binary64.exists_magnitudeText_eq_cons x
  refine ⟨k, ?_, h.zeros⟩
  have hsigned : (Binary64.finite negative x).text.toList =
      if negative then '-' :: Binary64.magnitudeText id x else Binary64.magnitudeText id x := by
    rw [Binary64.text, Binary64.textWith, Number.signed]
    cases negative <;> simp
  have hsign := Numeral.readSign_signed negative (s := Binary64.magnitudeText id x)
    (by simp [htext]) (by simpa [htext] using Text.isDigit_of_isDigit hdigit)
  have hplain := Binary64.forall_magnitudeText (p := fun c => isBlank c = false ∧ c ≠ '_')
    (fun c hc => ⟨Text.isBlank_of_isDigit hc, by rintro rfl; exact absurd hc (by decide)⟩)
    (by decide) x
  have hplain : ∀ c ∈ (if negative then '-' :: Binary64.magnitudeText id x
      else Binary64.magnitudeText id x), isBlank c = false ∧ c ≠ '_' := by
    split
    · exact List.forall_mem_cons.2 ⟨by decide, hplain⟩
    · exact hplain
  rw [hsigned, read?_of_isDigit hplain (hsign.trans (by rw [htext])) hdigit,
    Binary64.read?_magnitudeText]
  obtain ⟨hlow, hhigh, hcoefficient⟩ := x.significant_bounds
  have hcount := Number.digitCount_mul_pow_le k (by norm_num) hcoefficient
  clear hcoefficient
  have hzeros := h.zeros
  simp only [Option.bind_some, Numeral.toDecimal?, Numeral.coefficient, Numeral.lastPlace,
    h.digitsValue_append, h.lastPlace]
  exact if_pos ⟨by omega, by omega⟩

theorem toRat_zeros (negative : Bool) (coefficient k : Nat) (exponent : Int) :
    (finite negative (coefficient * 10 ^ k) (exponent - k)).toRat =
      (finite negative coefficient exponent).toRat := by
  rw [toRat, toRat, mul_assoc, mul_assoc]
  exact congrArg (_ * ·) (Digits.toRat_zeros ⟨coefficient, exponent⟩ k)

/-- The value that the text of a binary64 number is read as is that of its shortest digits. -/
theorem exists_toRat_read?_text (negative : Bool) (x : Magnitude) :
    ∃ q, read? (Binary64.finite negative x).text.toList = some q ∧
      q.toRat = (ofBinary64 (.finite negative x)).toRat := by
  obtain ⟨k, hread, -⟩ := exists_read?_text negative x
  exact ⟨_, hread, by rw [ofBinary64_finite, toRat_zeros]⟩

end Decimal

end Billing
