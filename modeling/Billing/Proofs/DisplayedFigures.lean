import Billing.Proofs.Number.Percentage
import Billing.Proofs.PlainFigures
import Billing.Proofs.PrintedRows

/-!
# Displayed figures

A quantity is displayed by all digits of its value if it is an integer, and by its shortest digits
otherwise; a rate by those of its percentage. Nothing is lost either way.

* `Number.isGrouped_group`: the integer digits stand in groups of three.
* `Binary64.isFigureOf_quantityFigure`: a displayed quantity reads back as it, and shows a fraction
  only if it is one.
* `Decimal.HasPercentage.isLabelOf_taxLabel`: the label of the tax has the exact value of the
  percentage.
* `displays_exactly`: both together.
-/

namespace Billing

open Number (ungroup)

/-! ## Groups of digits -/

namespace Number

/-- Digits in groups of three, divided by commas, of which the first may be shorter. -/
inductive IsGrouped : List Char → Prop
  | first {s : List Char} (some : s ≠ []) (short : s.length ≤ 3) (digits : ∀ c ∈ s, c.isDigit) :
      IsGrouped s
  | group {s : List Char} {a b c : Char} (front : IsGrouped s)
      (digits : a.isDigit ∧ b.isDigit ∧ c.isDigit) : IsGrouped (s ++ [',', a, b, c])

theorem isGrouped_reverse_groupFromLeft {s : List Char} (hsome : s ≠ [])
    (hs : ∀ c ∈ s, c.isDigit) : IsGrouped (groupFromLeft s).reverse := by
  fun_induction groupFromLeft s with
  | case1 a b c d s ih =>
    simp only [List.forall_mem_cons] at hs
    obtain ⟨ha, hb, hc, hrest⟩ := hs
    have hfront := ih (by simp) (List.forall_mem_cons.2 hrest)
    simpa using hfront.group ⟨hc, hb, ha⟩
  | case2 s hshort =>
    have hlength : s.length ≤ 3 := by
      obtain _ | ⟨a, _ | ⟨b, _ | ⟨c, _ | ⟨d, s⟩⟩⟩⟩ := s
      case cons.cons.cons.cons => exact (hshort a b c d s rfl).elim
      all_goals simp
    exact .first (by simpa using hsome) (by simpa using hlength) (by simpa using hs)

/-- Digits are grouped in threes from the right. -/
theorem isGrouped_group {s : List Char} (hsome : s ≠ []) (hs : ∀ c ∈ s, c.isDigit) :
    IsGrouped (group s) :=
  isGrouped_reverse_groupFromLeft (by simpa using hsome) (by simpa using hs)

end Number

/-! ## Quantities -/

/-- What the text of a quantity shows: a number that reads back as the quantity, its zero without a
sign; integer digits in groups of three; and if there is no exponent, a plain number that has a
fraction exactly if the quantity is no integer. -/
structure IsFigureOf (text : String) (q : Binary64) : Prop where
  read? : Binary64.read? (ungroup text.toList) = some (if q.isZero then 0 else q)
  grouped : ∃ negative whole rest, text = Number.signed negative (whole ++ rest) ∧
    Number.IsGrouped whole ∧ ∀ c ∈ rest.head?, c = '.' ∨ c = 'e'
  plain : 'e' ∉ text.toList → ∃ negative, ∃ n : WrittenNumber,
    ungroup text.toList = (Number.signed negative n.text).toList ∧ n.IsPlain ∧
      (n.fraction.isSome ↔ ¬ ∃ k : Int, q.toRat = k)

namespace Number

theorem ungroup_toList_signed (negative : Bool) (size : List Char) :
    ungroup (signed negative size).toList = (signed negative (ungroup size)).toList := by
  rw [ungroup_signed, signed, String.toList_ofList]

theorem mem_signed (negative : Bool) {size : List Char} {c : Char} (h : c ∈ size) :
    c ∈ (signed negative size).toList := by
  cases negative <;> simp [signed, h]

end Number

namespace Binary64

variable {s : Bool} {m : Magnitude}

theorem isInteger_iff : (finite s m).isInteger ↔ ∃ k : Int, (finite s m).toRat = k := by
  refine ⟨fun h => ⟨_, (toRat_floor_of_isInteger h).symm⟩, ?_⟩
  rintro ⟨k, hk⟩
  simp [isInteger, hk]

theorem not_isZero (s : Bool) (h : m.toRat ≠ 0) : ¬ (finite s m).isZero := by
  simpa [isZero] using (Magnitude.mantissa_pos h).ne'

/-! ### Integers -/

theorem quantityFigure_of_isInteger (h : (finite s m).isInteger) :
    quantityFigure (finite s m) = Number.signed ((finite s m).toRat.floor < 0)
      (Number.group (Number.digits (finite s m).toRat.floor.natAbs)) := by
  simp [quantityFigure, h]

/-- The digits of an integer are read back as it; only a zero loses its sign. -/
theorem ofDecimal_floor (h : (finite s m).isInteger) :
    ofDecimal ((finite s m).toRat.floor < 0) (finite s m).toRat.floor.natAbs 0 =
      if (finite s m).isZero then 0 else finite s m := by
  have hsize := toRat_eq_natAbs_floor h
  have hvalue := toRat_floor_of_isInteger h
  generalize (finite s m).toRat.floor = n at hsize hvalue ⊢
  obtain rfl | hn := eq_or_ne n 0
  · have hzero : (finite s m).isZero := by
      simpa [isZero] using Magnitude.mantissa_eq_zero (by simpa using hsize)
    rw [if_pos hzero]
    rfl
  · have hpos : 0 < m.toRat := by
      rw [hsize]
      exact_mod_cast Int.natAbs_pos.2 hn
    have hzero := not_isZero s hpos.ne'
    have hsign : decide (n < 0) = s := by
      rw [toRat_finite] at hvalue
      cases s with
      | false =>
        have : (0 : Rat) < n := by simpa [hvalue] using hpos
        simpa using (by exact_mod_cast this : 0 < n).le
      | true =>
        have : (n : Rat) < 0 := by simpa [hvalue] using hpos
        simpa using (by exact_mod_cast this : n < 0)
    rw [if_neg hzero, hsign, ofDecimal_of_toRat_eq s (Int.natAbs_pos.2 hn) hsize]

theorem isFigureOf_of_isInteger (h : (finite s m).isInteger) :
    IsFigureOf (quantityFigure (finite s m)) (finite s m) := by
  have hdigits : ∀ c ∈ Number.digits (finite s m).toRat.floor.natAbs, c.isDigit :=
    fun c hc => Number.isDigit_of_mem_digits hc
  have hungroup := Number.ungroup_group fun hmem => absurd (hdigits ',' hmem) (by decide)
  rw [quantityFigure_of_isInteger h]
  constructor
  · rw [Number.ungroup_toList_signed, hungroup, read?_digits, ofDecimal_floor h]
  · refine ⟨_, _, [], by rw [List.append_nil], ?_, by simp⟩
    exact Number.isGrouped_group (Number.digits_ne_nil _) hdigits
  · refine fun _ => ⟨(finite s m).toRat.floor < 0, .ofNat (finite s m).toRat.floor.natAbs, ?_,
      WrittenNumber.isPlain_ofNat _, ?_⟩
    · rw [Number.ungroup_toList_signed, hungroup, WrittenNumber.text_ofNat]
    · simpa [WrittenNumber.ofNat] using isInteger_iff.1 h

/-! ### Fractions -/

/-- A fraction is set out with an exponent, or with places behind the point only. -/
theorem layout_of_fraction (h : ∀ n : Nat, m.toRat ≠ n) :
    (∃ e, (layout m).2.2 = some e) ∨ ∃ c places, c % 10 ≠ 0 ∧ 0 < places ∧
      layout m = ((positional c places).1, (positional c places).2, none) := by
  have hx := Magnitude.mantissa_pos (by simpa using h 0)
  have hneg := Magnitude.exponent_shortest_neg h
  have hpos := Digits.coefficient_pos_of_nearest? hx (Magnitude.nearest?_shortest hx)
  simp only [layout, if_neg hx.ne']
  split
  · rw [if_neg (by omega)]
    exact .inr ⟨_, _, Magnitude.mod_ten_of_shortest hpos.ne', by omega, rfl⟩
  · exact .inl ⟨_, rfl⟩

/-- The text of a fraction has an exponent, or is plain and shows the fraction. -/
theorem exists_isPlain_of_fraction (h : ∀ n : Nat, m.toRat ≠ n) (he : 'e' ∉ magnitudeText id m) :
    ∃ n : WrittenNumber, magnitudeText id m = n.text ∧ n.IsPlain ∧ n.fraction.isSome := by
  obtain ⟨e, hexponent⟩ | ⟨c, places, hc, hplaces, hlayout⟩ := layout_of_fraction h
  · obtain ⟨fraction, -, htext⟩ := magnitudeText_eq m
    rw [htext, hexponent] at he
    simp at he
  · refine ⟨.ofPlaces c places, ?_, WrittenNumber.isPlain_ofPlaces hc hplaces, rfl⟩
    rw [magnitudeText, hlayout]
    rfl

theorem isFigureOf_of_not_isInteger (h : ¬ (finite s m).isInteger) :
    IsFigureOf (quantityFigure (finite s m)) (finite s m) := by
  have hfigure : quantityFigure (finite s m) = Number.signed s (magnitudeText Number.group m) := by
    simp [quantityFigure, h, grouped, textWith]
  have hfraction (n : Nat) : m.toRat ≠ n := by
    rintro hn
    refine h (isInteger_iff.2 ⟨(if s then -1 else 1) * n, ?_⟩)
    rw [toRat_finite, hn]
    push_cast
    rfl
  have hzero := not_isZero s (by simpa using hfraction 0)
  have hungroup : ungroup (quantityFigure (finite s m)).toList = (finite s m).text.toList := by
    rw [hfigure, Number.ungroup_toList_signed, ungroup_magnitudeText, text, textWith]
  constructor
  · rw [hungroup, read?_text, if_neg hzero]
  · obtain ⟨rest, hrest, htext⟩ := exists_magnitudeText_eq_append m
    obtain ⟨k, hlayout⟩ := exists_isLayout m
    exact ⟨s, _, rest, by rw [hfigure, htext],
      Number.isGrouped_group hlayout.whole_ne_nil hlayout.whole_isDigit, hrest⟩
  · intro he
    have he' : 'e' ∉ magnitudeText id m := by
      refine fun hmem => he (List.mem_of_mem_filter (p := (· != ',')) ?_)
      rw [← ungroup, hungroup]
      exact Number.mem_signed s hmem
    obtain ⟨n, htext, hplain, hsome⟩ := exists_isPlain_of_fraction hfraction he'
    refine ⟨s, n, by rw [hungroup, text, textWith, htext], hplain, ?_⟩
    simpa [hsome] using mt isInteger_iff.2 h

/-- A displayed quantity is the quantity. -/
theorem isFigureOf_quantityFigure {q : Binary64} (hq : q.isFinite) :
    IsFigureOf (quantityFigure q) q := by
  obtain ⟨s, m⟩ | _ | _ := q
  · by_cases h : (finite s m).isInteger
    · exact isFigureOf_of_isInteger h
    · exact isFigureOf_of_not_isInteger h
  · cases hq
  · cases hq

end Binary64

/-! ## Quantities and rates -/

/-- What the label of the tax shows: the percentage of the rate as a plain number, with its exact
value. -/
def IsLabelOf (label : Except Fault String) (rate : Decimal) : Prop :=
  ∃ negative, ∃ n : WrittenNumber,
    label = .ok ("消費税 (" ++ Number.signed negative n.text ++ "%)") ∧ n.IsPlain ∧
      (if negative then -1 else 1) * n.value = 100 * rate.toRat

theorem Decimal.HasPercentage.isLabelOf_taxLabel {rate : Decimal} (h : rate.HasPercentage) :
    IsLabelOf (taxLabel rate) rate := by
  obtain ⟨s, c, e, hmul, hvalue⟩ := h.exists_mul_hundred
  obtain ⟨n, htext, hplain, hn⟩ := exists_isPlain s c e
  refine ⟨s, n, ?_, hplain, ?_⟩
  · rw [taxLabel_of_mul hmul, htext]
  · rw [← hn, hvalue, mul_comm]

/-- Every finite quantity is displayed by a number that reads back as it, and every rate whose
percentage can be held by the exact value of this percentage. -/
theorem displays_exactly :
    (∀ q : Binary64, q.isFinite → IsFigureOf (quantityFigure q) q) ∧
      ∀ rate : Decimal, rate.HasPercentage → IsLabelOf (taxLabel rate) rate :=
  ⟨fun _ => Binary64.isFigureOf_quantityFigure, fun _ => Decimal.HasPercentage.isLabelOf_taxLabel⟩

/-- A quantity with three groups and a fraction, one with an exponent, and a rate of seven and a
quarter percent. -/
theorem displays_exactly_of_quarters :
    quantityFigure (.ofRat (2469135 / 2)) = "1,234,567.5" ∧
      IsFigureOf "1,234,567.5" (.ofRat (2469135 / 2)) ∧
      quantityFigure (.ofRat (1 / 10 ^ 7)) = "1e-07" ∧
      IsFigureOf "1e-07" (.ofRat (1 / 10 ^ 7)) ∧
      (Decimal.finite false 725 (-4)).HasPercentage ∧
      taxLabel (.finite false 725 (-4)) = .ok "消費税 (7.25%)" ∧
      IsLabelOf (.ok "消費税 (7.25%)") (.finite false 725 (-4)) := by
  have hgroups : quantityFigure (.ofRat (2469135 / 2)) = "1,234,567.5" := by decide +kernel
  have hexponent : quantityFigure (.ofRat (1 / 10 ^ 7)) = "1e-07" := by decide +kernel
  have hlabel : taxLabel (.finite false 725 (-4)) = .ok "消費税 (7.25%)" := by decide +kernel
  have hrate : (Decimal.finite false 725 (-4)).HasPercentage :=
    Decimal.IsModerate.hasPercentage
      ⟨false, 725, 0, -4, rfl, by decide, by decide, by decide⟩
  obtain ⟨hquantity, htax⟩ := displays_exactly
  exact ⟨hgroups, hgroups ▸ hquantity _ (by decide +kernel), hexponent,
    hexponent ▸ hquantity _ (by decide +kernel), hrate, hlabel, hlabel ▸ htax _ hrate⟩

end Billing
