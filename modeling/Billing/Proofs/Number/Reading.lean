import Billing.Layout.Figures
import Billing.Number.Numeral
import Billing.Proofs.Number.Exact
import Billing.Proofs.Outcome
import Mathlib.Data.List.TakeWhile

/-!
# Figures read back

The number that a text shows is read off its digits, its sign and its point, without the characters
around and between them (`readFigure?`).

* `readFigure?_of_groupedText`: an integer in groups of digits is read back, whatever stands around
  it.
* `readFigure?_of_plainText`: so is a decimal number without an exponent.
-/

namespace Billing

open Text (isDigit digitValue? digitsValue)

/-! ## Digits -/

namespace Text

theorem exists_of_isDigit {c : Char} (h : c.isDigit) :
    ∃ n < 10, c.toNat = 0x30 + n ∧ c = Char.ofNat (0x30 + n) := by
  obtain ⟨hlow, hhigh⟩ : 48 ≤ c.toNat ∧ c.toNat ≤ 57 := by
    simpa [Char.isDigit, UInt32.le_iff_toNat_le] using h
  have hc : c.toNat = 0x30 + (c.toNat - 48) := (Nat.add_sub_cancel' hlow).symm
  exact ⟨c.toNat - 48, by omega, hc, by rw [← hc, Char.ofNat_toNat]⟩

/-- What the ten digits have, every digit has. -/
theorem of_isDigit {p : Char → Prop} (h : ∀ n < 10, p (Char.ofNat (0x30 + n))) {c : Char}
    (hc : c.isDigit) : p c := by
  obtain ⟨n, hn, -, rfl⟩ := exists_of_isDigit hc
  exact h n hn

theorem digitValue?_of_isDigit {c : Char} (h : c.isDigit) :
    digitValue? c = some (c.toNat - '0'.toNat) := by
  obtain ⟨n, hn, hvalue, hc⟩ := exists_of_isDigit h
  rw [hvalue, hc, digitValue?_ascii n hn]
  exact congrArg some (Nat.add_sub_cancel_left ..).symm

theorem isDigit_of_isDigit {c : Char} (h : c.isDigit) : isDigit c := by
  rw [isDigit, digitValue?_of_isDigit h]
  rfl

theorem isBlank_of_isDigit {c : Char} (h : c.isDigit) : isBlank c = false :=
  of_isDigit (p := (isBlank · = false)) (by decide) h

theorem digitsValue_eq {ds : List Char} (h : ∀ c ∈ ds, c.isDigit) :
    digitsValue ds = Nat.ofDigitChars 10 ds 0 := by
  refine List.foldl_ext _ _ _ fun n c hc => ?_
  rw [digitValue?_of_isDigit (h c hc)]
  rfl

theorem isDigit_of_mem_zeros {k : Nat} : ∀ c ∈ List.replicate k '0', c.isDigit := by
  intro c hc
  rw [List.eq_of_mem_replicate hc]
  rfl

theorem digitsValue_zeros_append {ds : List Char} (h : ∀ c ∈ ds, c.isDigit) (k : Nat) :
    digitsValue (List.replicate k '0' ++ ds) = digitsValue ds := by
  rw [digitsValue_eq (List.forall_mem_append.2 ⟨isDigit_of_mem_zeros, h⟩), digitsValue_eq h,
    Nat.ofDigitChars_append, Nat.ofDigitChars_replicate_zero, Nat.mul_zero]

theorem digitsValue_append_zeros {ds : List Char} (h : ∀ c ∈ ds, c.isDigit) (k : Nat) :
    digitsValue (ds ++ List.replicate k '0') = digitsValue ds * 10 ^ k := by
  rw [digitsValue_eq (List.forall_mem_append.2 ⟨h, isDigit_of_mem_zeros⟩), digitsValue_eq h,
    Nat.ofDigitChars_append, Nat.ofDigitChars_replicate_zero, Nat.mul_comm]

/-- A run of digits ends at a character that is none. -/
theorem span_isDigit {ds rest : List Char} (hds : ∀ c ∈ ds, isDigit c)
    (hrest : ∀ c ∈ rest.head?, isDigit c = false) :
    (ds ++ rest).takeWhile isDigit = ds ∧ (ds ++ rest).dropWhile isDigit = rest := by
  rw [List.takeWhile_append_of_pos hds, List.dropWhile_append_of_pos hds]
  cases rest with
  | nil => simp
  | cons c rest => simp [hrest c rfl]

theorem ofDigitChars_lt {ds : List Char} (h : ∀ c ∈ ds, c.isDigit) (n : Nat) :
    Nat.ofDigitChars 10 ds n < (n + 1) * 10 ^ ds.length := by
  induction ds generalizing n with
  | nil => simp
  | cons c ds ih =>
    obtain ⟨hc, h⟩ := List.forall_mem_cons.1 h
    obtain ⟨k, hk, hvalue, -⟩ := exists_of_isDigit hc
    rw [Nat.ofDigitChars_cons, List.length_cons, Nat.pow_succ']
    refine (ih h _).trans_le ?_
    rw [← Nat.mul_assoc]
    refine Nat.mul_le_mul_right _ ?_
    have : '0'.toNat = 0x30 := rfl
    omega

/-- So many digits or less write a number below that power of ten. -/
theorem ofDigitChars_lt_pow {ds : List Char} (h : ∀ c ∈ ds, c.isDigit) {k : Nat}
    (hlength : ds.length ≤ k) : Nat.ofDigitChars 10 ds 0 < 10 ^ k := by
  refine (ofDigitChars_lt h 0).trans_le ?_
  rw [Nat.zero_add, Nat.one_mul]
  exact Nat.pow_le_pow_right (by omega) hlength

end Text

namespace Number

theorem isDigit_of_mem_digits {n : Nat} {c : Char} (h : c ∈ digits n) : c.isDigit := by
  rw [digits_eq] at h
  exact Nat.isDigit_of_mem_toDigits (by omega) (by omega) h

theorem digits_ne_nil (n : Nat) : digits n ≠ [] := by
  rw [digits_eq]
  exact Nat.toDigits_ne_nil

theorem digitsValue_digits (n : Nat) : digitsValue (digits n) = n := by
  rw [Text.digitsValue_eq fun c hc => isDigit_of_mem_digits hc, digits_eq]
  exact Nat.ofDigitChars_toDigits (by omega) (by omega)

end Number

/-! ## Numerals -/

namespace Numeral

/-- The exact value of a numeral. -/
def toRat (x : Numeral) : Rat :=
  (if x.negative then -1 else 1) * (x.coefficient : Rat) * (10 : Rat) ^ x.lastPlace

theorem readSign_signed (negative : Bool) {s : List Char} (some : s ≠ [])
    (h : ∀ c ∈ s.head?, isDigit c) :
    readSign (if negative then '-' :: s else s) = (negative, s) := by
  cases negative with
  | true => rfl
  | false =>
    obtain ⟨c, s, rfl⟩ := List.exists_cons_of_ne_nil some
    have hc : isDigit c := h c rfl
    have : c ≠ '-' ∧ c ≠ '+' := by
      constructor
      · rintro rfl
        exact absurd hc (by decide)
      · rintro rfl
        exact absurd hc (by decide)
    simp [readSign, this]

/-- The digits and the point at the start of a text are read up to what follows them. -/
theorem span_append {whole : List Char} (fraction : Option (List Char)) {rest : List Char}
    (hwhole : ∀ c ∈ whole, isDigit c) (hfraction : ∀ c ∈ fraction.getD [], isDigit c)
    (hrest : ∀ c ∈ rest.head?, isDigit c = false ∧ c ≠ '.') :
    let s := whole ++ (fraction.map ('.' :: ·)).getD [] ++ rest
    s.takeWhile isDigit = whole ∧
      readFraction (s.dropWhile isDigit) = (fraction.getD [], rest) := by
  have hdigit (c) (hc : c ∈ rest.head?) := (hrest c hc).1
  cases fraction with
  | none =>
    obtain ⟨htake, hdrop⟩ := Text.span_isDigit hwhole hdigit
    have hread : readFraction rest = ([], rest) := by
      cases rest with
      | nil => rfl
      | cons c rest =>
        have := (hrest c rfl).2
        unfold readFraction
        split <;> simp_all
    simp [htake, hdrop, hread]
  | some fraction =>
    have hpoint : ∀ c ∈ ('.' :: (fraction ++ rest)).head?, isDigit c = false := by
      rintro _ ⟨⟩
      decide
    obtain ⟨htake, hdrop⟩ := Text.span_isDigit hwhole hpoint
    obtain ⟨htake', hdrop'⟩ := Text.span_isDigit hfraction hdigit
    have hread : readFraction ('.' :: (fraction ++ rest)) = (fraction, rest) := by
      rw [readFraction, ← Option.getD_some (a := fraction), htake', hdrop']
    simp [htake, hdrop, hread]

/-- A numeral is read from its sign, its digits with an optional point, and its exponent. -/
theorem read?_append (negative : Bool) {whole : List Char} (fraction : Option (List Char))
    (rest : List Char) {e : Int} (some : whole ≠ []) (hwhole : ∀ c ∈ whole, isDigit c)
    (hfraction : ∀ c ∈ fraction.getD [], isDigit c)
    (hrest : ∀ c ∈ rest.head?, isDigit c = false ∧ c ≠ '.')
    (hexponent : readExponent? rest = .some e) :
    let s := whole ++ (fraction.map ('.' :: ·)).getD [] ++ rest
    read? (if negative then '-' :: s else s) = .some ⟨negative, whole, fraction.getD [], e⟩ := by
  intro s
  obtain ⟨htake, hread⟩ : s.takeWhile isDigit = whole ∧
      readFraction (s.dropWhile isDigit) = (fraction.getD [], rest) :=
    span_append fraction hwhole hfraction hrest
  have hhead : ∀ c ∈ s.head?, isDigit c := by
    obtain ⟨c, whole, rfl⟩ := List.exists_cons_of_ne_nil some
    simpa [s] using hwhole c List.mem_cons_self
  have hsign := readSign_signed negative (by simp [s, some]) hhead
  simp only [read?, hsign, htake, hread, some, false_and, if_false, hexponent, Option.map_some]

theorem read?_whole (negative : Bool) {whole : List Char} (some : whole ≠ [])
    (h : ∀ c ∈ whole, isDigit c) :
    read? (if negative then '-' :: whole else whole) = .some ⟨negative, whole, [], 0⟩ := by
  have := read?_append negative none [] some h (by simp) (by simp) rfl
  simpa using this

theorem read?_point (negative : Bool) {whole fraction : List Char} (some : whole ≠ [])
    (hwhole : ∀ c ∈ whole, isDigit c) (hfraction : ∀ c ∈ fraction, isDigit c) :
    read? (if negative then '-' :: (whole ++ '.' :: fraction) else whole ++ '.' :: fraction) =
      .some ⟨negative, whole, fraction, 0⟩ := by
  have := read?_append negative (.some fraction) [] some hwhole hfraction (by simp) rfl
  simpa using this

end Numeral

/-! ## Figures -/

/-- Whether a character is a digit, a sign or a point. -/
def isFigure (c : Char) : Bool := isDigit c || c == '-' || c == '.'

/-- The number that a text shows. Characters that are no part of a number are passed over. -/
def readFigure? (s : String) : Option Rat :=
  (Numeral.read? (s.toList.filter isFigure)).map (·.toRat)

namespace Number

theorem filter_group {s : List Char} (h : ∀ c ∈ s, isFigure c) : (group s).filter isFigure = s := by
  have hcomma : ',' ∉ s := fun hmem => absurd (h _ hmem) (by decide)
  have hfilter : (ungroup (group s)).filter isFigure = (group s).filter isFigure := by
    rw [ungroup, List.filter_filter]
    refine List.filter_congr fun c _ => ?_
    rw [Bool.and_eq_left_iff_imp]
    rintro hc
    rw [bne_iff_ne]
    rintro rfl
    exact absurd hc (by decide)
  rw [← hfilter, ungroup_group hcomma, List.filter_eq_self]
  exact h

theorem mem_of_mem_group {s : List Char} (hcomma : ',' ∉ s) {c : Char} (h : c ∈ group s)
    (hc : c ≠ ',') : c ∈ s := by
  rw [← ungroup_group hcomma]
  exact List.mem_filter.2 ⟨h, by simpa using hc⟩

theorem filter_signed (negative : Bool) (s : List Char) :
    (signed negative s).toList.filter isFigure =
      if negative then '-' :: s.filter isFigure else s.filter isFigure := by
  cases negative <;> simp [signed, isFigure]

end Number

theorem readFigure?_append_left {before : String} (h : before.toList.filter isFigure = [])
    (s : String) : readFigure? (before ++ s) = readFigure? s := by
  simp [readFigure?, h]

theorem readFigure?_append_right {after : String} (h : after.toList.filter isFigure = [])
    (s : String) : readFigure? (s ++ after) = readFigure? s := by
  simp [readFigure?, h]

theorem readFigure?_of_groupedText {n : Int} {s : String} (h : Number.groupedText n = .ok s) :
    readFigure? s = some (n : Rat) := by
  unfold Number.groupedText at h
  split at h
  · obtain rfl := Except.ok.inj h
    have hdigits : ∀ c ∈ Number.digits n.natAbs, isDigit c :=
      fun c hc => Text.isDigit_of_isDigit (Number.isDigit_of_mem_digits hc)
    have hfigures : ∀ c ∈ Number.digits n.natAbs, isFigure c := fun c hc => by
      simp [isFigure, hdigits c hc]
    rw [readFigure?, Number.filter_signed, Number.filter_group hfigures,
      Numeral.read?_whole _ (Number.digits_ne_nil _) hdigits]
    simp only [Option.map_some, Numeral.toRat, Numeral.coefficient, Numeral.lastPlace,
      List.append_nil, Number.digitsValue_digits, List.length_nil, Nat.cast_zero, sub_self,
      zpow_zero, mul_one, decide_eq_true_eq]
    exact congrArg some (signed_natAbs n)
  · cases h

/-- The text of an integer is a single line. -/
theorem newline_not_mem_of_groupedText {n : Int} {s : String}
    (h : Number.groupedText n = .ok s) : '\n' ∉ s.toList := by
  unfold Number.groupedText at h
  split at h
  · obtain rfl := Except.ok.inj h
    have not_mem {c : Char} (hc : c.isDigit = false) : c ∉ Number.digits n.natAbs :=
      fun hmem => by simp [Number.isDigit_of_mem_digits hmem] at hc
    have hgroup : '\n' ∉ Number.group (Number.digits n.natAbs) := fun hmem =>
      not_mem (by decide) (Number.mem_of_mem_group (not_mem (by decide)) hmem (by decide))
    cases decide (n < 0) <;> simp [Number.signed, hgroup]
  · cases h

theorem readFigure?_of_yen {n : Int} {s : String} (h : yen n = .ok s) :
    readFigure? s = some (n : Rat) := by
  obtain ⟨s, hs, rfl⟩ := map_eq_ok.1 h
  rw [readFigure?_append_left (by cbv), readFigure?_of_groupedText hs]

/-! ## Decimal numbers -/

/-- A point among digits: at least one digit before it, and as many behind it as places. -/
theorem Binary64.positional_spec (c places : Nat) :
    (positional c places).1 ≠ [] ∧
      (∀ ch ∈ (positional c places).1 ++ (positional c places).2, ch.isDigit) ∧
      digitsValue ((positional c places).1 ++ (positional c places).2) = c ∧
      (positional c places).2.length = places := by
  let s := List.replicate (places + 1 - (Number.digits c).length) '0' ++ Number.digits c
  have hpositional : positional c places =
      (s.take (s.length - places), s.drop (s.length - places)) := rfl
  have hlength : places + 1 ≤ s.length := by
    simp only [s, List.length_append, List.length_replicate]
    omega
  have hdigits : ∀ ch ∈ s, ch.isDigit := List.forall_mem_append.2
    ⟨Text.isDigit_of_mem_zeros, fun ch hch => Number.isDigit_of_mem_digits hch⟩
  have hvalue : digitsValue s = c := by
    rw [Text.digitsValue_zeros_append fun ch hch => Number.isDigit_of_mem_digits hch,
      Number.digitsValue_digits]
  rw [hpositional, List.take_append_drop]
  refine ⟨?_, hdigits, hvalue, ?_⟩
  · rw [← List.length_pos_iff, List.length_take]
    omega
  · rw [List.length_drop]
    omega

theorem readFigure?_signed (negative : Bool) {s : List Char} (h : ∀ c ∈ s, isFigure c) :
    readFigure? (Number.signed negative s) =
      (Numeral.read? (if negative then '-' :: s else s)).map (·.toRat) := by
  rw [readFigure?, Number.filter_signed, List.filter_eq_self.2 h]

theorem isFigure_of_isDigit {c : Char} (h : c.isDigit) : isFigure c := by
  simp [isFigure, Text.isDigit_of_isDigit h]

theorem readFigure?_of_plainText (negative : Bool) (c : Nat) (e : Int) :
    readFigure? (Decimal.finite negative c e).plainText =
      some (Decimal.finite negative c e).toRat := by
  simp only [Decimal.plainText]
  split
  · rename_i he
    obtain ⟨k, rfl⟩ := Int.eq_ofNat_of_zero_le he
    have hdigits {ch : Char} (hch : ch ∈ Number.digits (c * 10 ^ k)) : ch.isDigit :=
      Number.isDigit_of_mem_digits hch
    rw [Int.toNat_natCast,
      readFigure?_signed negative fun ch hch => isFigure_of_isDigit (hdigits hch),
      Numeral.read?_whole _ (Number.digits_ne_nil _) fun ch hch =>
        Text.isDigit_of_isDigit (hdigits hch)]
    simp only [Option.map_some, Numeral.toRat, Numeral.coefficient, Numeral.lastPlace,
      List.append_nil, Number.digitsValue_digits, List.length_nil, Nat.cast_zero, sub_self,
      zpow_zero, mul_one, Decimal.toRat, zpow_natCast]
    push_cast
    rw [mul_assoc]
  · rename_i he
    obtain ⟨k, hk⟩ := Int.eq_ofNat_of_zero_le (show 0 ≤ -e by omega)
    obtain ⟨hwhole, hdigits, hvalue, hlength⟩ := Binary64.positional_spec c k
    obtain ⟨hdigits₁, hdigits₂⟩ := List.forall_mem_append.1 hdigits
    have hfigures : ∀ ch ∈ (Binary64.positional c k).1 ++ '.' :: (Binary64.positional c k).2,
        isFigure ch := by
      rw [List.forall_mem_append, List.forall_mem_cons]
      exact ⟨fun ch hch => isFigure_of_isDigit (hdigits₁ ch hch), by cbv,
        fun ch hch => isFigure_of_isDigit (hdigits₂ ch hch)⟩
    rw [hk, Int.toNat_natCast, readFigure?_signed negative hfigures,
      Numeral.read?_point _ hwhole (fun ch hch => Text.isDigit_of_isDigit (hdigits₁ ch hch))
        fun ch hch => Text.isDigit_of_isDigit (hdigits₂ ch hch)]
    simp only [Option.map_some, Numeral.toRat, Numeral.coefficient, Numeral.lastPlace, hvalue,
      hlength, Decimal.toRat, zero_sub, ← hk, neg_neg]

/-- The label of the tax shows the percentage of the rate. -/
theorem taxLabel_of_mul {rate x : Decimal} (h : rate.mul (.ofInt 100) = .ok x) :
    taxLabel rate = .ok ("消費税 (" ++ x.normalize.plainText ++ "%)") := by
  have hpercent : percent rate = .ok x.normalize.plainText := bind_eq_ok.2 ⟨_, h, rfl⟩
  exact bind_eq_ok.2 ⟨_, hpercent, rfl⟩

end Billing
