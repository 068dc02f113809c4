import Billing.Item.Line
import Billing.Proofs.Number.Reading
import Mathlib.Data.List.DropRight

/-!
# Numbers at the start of a field

A quantity field may start with a number (`Writes`): digits, digits with a point, or a point and
digits. A price field may start with digits. The digits are those of any script.

* `exists_writes_of_leadingNumber?`, `isSuffix_of_leadingNumber?`: the number that is read off the
  start of a field is the longest text that starts it and writes one.
* `Writes.read?`: every text that writes a number is read as one.
* `Number.readInteger?_of_forall`: every run of digits is read as an integer, if it is not too long.
-/

namespace Billing

open Text (isDigit isBlank)

/-! ## Digits of any script -/

namespace Text

/-- What the ten digits of each script have, every digit has. -/
theorem forall_isDigit {p : Char → Prop}
    (h : ∀ z ∈ digitZeros, ∀ n < 10, p (Char.ofNat (z + n))) {c : Char} (hc : isDigit c) : p c := by
  obtain ⟨d, hd⟩ := Option.isSome_iff_exists.1 hc
  obtain ⟨z, hz, -⟩ := Option.map_eq_some_iff.1 hd
  have hrange := List.find?_some hz
  simp only [Bool.and_eq_true, decide_eq_true_eq] at hrange
  have hc : c = Char.ofNat (z + (c.toNat - z)) := by
    rw [Nat.add_sub_cancel' hrange.1, Char.ofNat_toNat]
  rw [hc]
  exact h z (List.mem_of_find?_eq_some hz) _ (by omega)

end Text

/-- Whether a character is none that means something to the reading of a number but as a digit or as
the point: it is no margin, no underscore and no sign, and begins no name of a value. -/
def IsNumeric (c : Char) : Prop :=
  isMargin c = false ∧ c ≠ '_' ∧ c ≠ '-' ∧ c ≠ '+' ∧ c.toLower ≠ 'i' ∧ c.toLower ≠ 'n'

instance (c : Char) : Decidable (IsNumeric c) := inferInstanceAs (Decidable (_ ∧ _))

theorem IsNumeric.isMargin {c : Char} (h : IsNumeric c) : isMargin c = false ∧ c ≠ '_' :=
  ⟨h.1, h.2.1⟩

theorem isNumeric_of_isDigit {c : Char} (h : isDigit c) : IsNumeric c :=
  Text.forall_isDigit (by decide +kernel) h

theorem isNumeric_point : IsNumeric '.' := by decide

/-! ## Reading a whole text -/

theorem underscoresDivideDigits_of_not_mem {s : List Char} (h : '_' ∉ s) :
    underscoresDivideDigits s := by
  fun_induction underscoresDivideDigits s with
  | case1 a b s ih => simp at h
  | case2 a s _ ih =>
    simp only [List.mem_cons, not_or] at h
    simp [Ne.symm h.1, ih h.2]
  | case3 => rfl

/-- Nothing is cut off or left out of a text without margins and underscores. -/
theorem withoutMargins?_of_forall {s : List Char} (h : ∀ c ∈ s, isMargin c = false ∧ c ≠ '_') :
    withoutMargins? s = some s := by
  have hmargin (c) (hc : c ∈ s) : isMargin c = false := (h c hc).1
  have hunderscore : '_' ∉ s := fun hmem => (h _ hmem).2 rfl
  have hleft : s.dropWhile isMargin = s := by
    refine List.dropWhile_eq_self_iff.2 fun hlength => ?_
    simp [hmargin _ (List.getElem_mem hlength)]
  have hright : Text.dropRightWhile isMargin s = s := by
    refine List.rdropWhile_eq_self_iff.2 fun hne => ?_
    simp [hmargin _ (List.getLast_mem hne)]
  have hfilter : s.filter (· != '_') = s :=
    List.filter_eq_self.2 fun c hc => by simpa using ne_of_mem_of_not_mem hc hunderscore
  rw [withoutMargins?, hleft, hright, if_pos (underscoresDivideDigits_of_not_mem hunderscore),
    hfilter]

/-- A text of digits and points has no sign. -/
theorem readSign_of_forall {s : List Char} (h : ∀ c ∈ s, IsNumeric c) :
    Numeral.readSign s = (false, s) := by
  cases s with
  | nil => rfl
  | cons c s =>
    obtain ⟨-, -, hminus, hplus, -⟩ := h c List.mem_cons_self
    simp [Numeral.readSign, hminus, hplus]

/-- A text of digits and points is no name of a value. -/
theorem lowercase_ne_of_forall {s : List Char} (h : ∀ c ∈ s, IsNumeric c) {name : List Char}
    (hname : name.head? = some 'i' ∨ name.head? = some 'n') : lowercase s ≠ name := by
  rintro rfl
  cases s with
  | nil => simp [lowercase] at hname
  | cons c s =>
    obtain ⟨-, -, -, -, hi, hn⟩ := h c List.mem_cons_self
    simp [lowercase, hi, hn] at hname

theorem Binary64.read?_of_forall {s : List Char} (h : ∀ c ∈ s, IsNumeric c) :
    Binary64.read? s = (Numeral.read? s).map Numeral.toBinary64 := by
  have hname {name : String} (hhead : name.toList.head? = some 'i' ∨ name.toList.head? = some 'n') :
      String.ofList (lowercase s) ≠ name := by
    intro heq
    refine lowercase_ne_of_forall h hhead ?_
    rw [← heq, String.toList_ofList]
  have hmargins := withoutMargins?_of_forall fun c hc => (h c hc).isMargin
  simp only [Binary64.read?, hmargins, Option.bind_some, readSign_of_forall h]
  rw [if_neg (not_or.2 ⟨hname (by decide), hname (by decide)⟩), if_neg (hname (by decide))]

/-! ## Numbers -/

/-- A text without a sign is a number and perhaps an exponent. -/
theorem Numeral.read?_eq {s : List Char} (h : readSign s = (false, s)) :
    read? s = (leadingNumber? s).bind fun x =>
      (readExponent? x.2).map fun e => { x.1 with exponent := e } := by
  simp only [read?, h, leadingNumber?]
  split <;> rfl

theorem readFraction_isSuffix (s : List Char) : (Numeral.readFraction s).2 <:+ s := by
  unfold Numeral.readFraction
  split
  · exact (List.dropWhile_suffix _).trans (List.suffix_cons _ _)
  · exact List.suffix_rfl

theorem readFraction_append {fs : List Char} (h : ∀ c ∈ fs, isDigit c) (rest : List Char) :
    Numeral.readFraction ('.' :: (fs ++ rest)) =
      (fs ++ rest.takeWhile isDigit, rest.dropWhile isDigit) := by
  simp only [Numeral.readFraction, List.takeWhile_append_of_pos h, List.dropWhile_append_of_pos h]

/-- A run of digits ends at a point. -/
theorem span_point {ds : List Char} (h : ∀ c ∈ ds, isDigit c) (rest : List Char) :
    (ds ++ '.' :: rest).takeWhile isDigit = ds ∧
      (ds ++ '.' :: rest).dropWhile isDigit = '.' :: rest := by
  refine Text.span_isDigit h ?_
  rintro _ ⟨⟩
  decide

theorem leadingNumber?_eq (s : List Char) :
    leadingNumber? s =
      if s.takeWhile isDigit = [] ∧ (Numeral.readFraction (s.dropWhile isDigit)).1 = [] then none
      else some (⟨false, s.takeWhile isDigit, (Numeral.readFraction (s.dropWhile isDigit)).1, 0⟩,
        (Numeral.readFraction (s.dropWhile isDigit)).2) := rfl

/-- The numeral that a text of digits writes: digits, digits with a point and perhaps more digits,
or a point and digits. -/
inductive Writes : List Char → Numeral → Prop
  | whole {ds} (some : ds ≠ []) (digits : ∀ c ∈ ds, isDigit c) : Writes ds ⟨false, ds, [], 0⟩
  | point {ds fs} (some : ds ≠ []) (digits : ∀ c ∈ ds, isDigit c) (places : ∀ c ∈ fs, isDigit c) :
    Writes (ds ++ '.' :: fs) ⟨false, ds, fs, 0⟩
  | fraction {fs} (some : fs ≠ []) (places : ∀ c ∈ fs, isDigit c) :
    Writes ('.' :: fs) ⟨false, [], fs, 0⟩

namespace Writes

variable {s : List Char} {n : Numeral}

theorem isNumeric (h : Writes s n) : ∀ c ∈ s, IsNumeric c := by
  have hdigits {ds : List Char} (h : ∀ c ∈ ds, isDigit c) : ∀ c ∈ ds, IsNumeric c :=
    fun c hc => isNumeric_of_isDigit (h c hc)
  cases h with
  | whole _ digits => exact hdigits digits
  | point _ digits places =>
    exact List.forall_mem_append.2
      ⟨hdigits digits, List.forall_mem_cons.2 ⟨isNumeric_point, hdigits places⟩⟩
  | fraction _ places => exact List.forall_mem_cons.2 ⟨isNumeric_point, hdigits places⟩

/-- A text that starts with a number is read at least as far as the number goes. -/
theorem exists_leadingNumber? (h : Writes s n) (rest : List Char) :
    ∃ n' rest', leadingNumber? (s ++ rest) = some (n', rest') ∧ rest' <:+ rest := by
  cases h with
  | whole some digits =>
    have htake : (s ++ rest).takeWhile isDigit ≠ [] := by
      rw [List.takeWhile_append_of_pos digits]
      exact List.append_ne_nil_of_left_ne_nil some _
    rw [leadingNumber?_eq, List.dropWhile_append_of_pos digits, if_neg fun h => htake h.1]
    exact ⟨_, _, rfl, (readFraction_isSuffix _).trans (List.dropWhile_suffix _)⟩
  | @point ds fs some digits places =>
    obtain ⟨htake, hdrop⟩ := span_point digits (fs ++ rest)
    rw [List.append_assoc, List.cons_append, leadingNumber?_eq, htake, hdrop,
      readFraction_append places, if_neg fun h => some h.1]
    exact ⟨_, _, rfl, List.dropWhile_suffix _⟩
  | @fraction fs some places =>
    obtain ⟨htake, hdrop⟩ := span_point (List.forall_mem_nil _) (fs ++ rest)
    rw [List.cons_append, ← List.nil_append ('.' :: (fs ++ rest)), leadingNumber?_eq, htake, hdrop,
      readFraction_append places,
      if_neg fun h => List.append_ne_nil_of_left_ne_nil some _ h.2]
    exact ⟨_, _, rfl, List.dropWhile_suffix _⟩

/-- A number is read as such in front of whatever does not go on with it. -/
theorem leadingNumber?_append (h : Writes s n) (rest : List Char)
    (hrest : ∀ c ∈ rest.head?, isDigit c = false ∧ c ≠ '.') :
    leadingNumber? (s ++ rest) = some (n, rest) := by
  cases h with
  | whole some digits =>
    obtain ⟨htake, hread⟩ := Numeral.span_append none digits (by simp) hrest
    simp only [Option.map_none, Option.getD_none, List.append_nil] at htake hread
    rw [leadingNumber?_eq, htake, hread, if_neg fun h => some h.1]
  | @point ds fs some digits places =>
    obtain ⟨htake, hread⟩ := Numeral.span_append (.some fs) digits places hrest
    simp only [Option.map_some, Option.getD_some] at htake hread
    rw [leadingNumber?_eq, htake, hread, if_neg fun h => some h.1]
  | @fraction fs some places =>
    obtain ⟨htake, hread⟩ :=
      Numeral.span_append (.some fs) (List.forall_mem_nil _) places hrest
    simp only [Option.map_some, Option.getD_some, List.nil_append] at htake hread
    rw [leadingNumber?_eq, htake, hread, if_neg fun h => some h.2]

/-- A text that writes a number is a number to its end. -/
theorem leadingNumber?_self (h : Writes s n) : leadingNumber? s = some (n, []) := by
  simpa using h.leadingNumber?_append [] (by simp)

theorem append_ne_lumpSum (h : Writes s n) (rest : List Char) : s ++ rest ≠ lumpSum := by
  intro heq
  obtain ⟨n', rest', hread, -⟩ := h.exists_leadingNumber? rest
  have hnone : leadingNumber? lumpSum = none := by decide
  rw [heq, hnone] at hread
  cases hread

/-- What a quantity field starts with is read as a number. -/
theorem read? (h : Writes s n) : Binary64.read? s = some n.toBinary64 := by
  have hexponent : n.exponent = 0 := by cases h <;> rfl
  rw [Binary64.read?_of_forall h.isNumeric, Numeral.read?_eq (readSign_of_forall h.isNumeric),
    h.leadingNumber?_self, Option.bind_some, Numeral.readExponent?, Option.map_some,
    Option.map_some, ← hexponent]

end Writes

/-- The number that is read is what the text starts with. -/
theorem exists_writes_of_leadingNumber? {s rest : List Char} {n : Numeral}
    (h : leadingNumber? s = some (n, rest)) : ∃ t, Writes t n ∧ s = t ++ rest := by
  have hdigits : ∀ c ∈ s.takeWhile isDigit, isDigit c := fun c hc => List.mem_takeWhile_imp hc
  have hsplit : s.takeWhile isDigit ++ s.dropWhile isDigit = s := List.takeWhile_append_dropWhile
  rw [leadingNumber?] at h
  generalize s.takeWhile isDigit = whole at h hdigits hsplit
  generalize s.dropWhile isDigit = after at h hsplit
  simp only [Numeral.readFraction] at h
  split at h <;> split_ifs at h with hnone <;> obtain ⟨rfl, rfl⟩ := by simpa using h
  · -- a point follows the digits, if there are any
    rename_i _ fs
    have hplaces : ∀ c ∈ fs.takeWhile isDigit, isDigit c := fun c hc => List.mem_takeWhile_imp hc
    have hfs : fs.takeWhile isDigit ++ fs.dropWhile isDigit = fs :=
      List.takeWhile_append_dropWhile
    by_cases hwhole : whole = []
    · subst hwhole
      refine ⟨_, .fraction (fun h => hnone ⟨rfl, h⟩) hplaces, ?_⟩
      rw [← hsplit, List.nil_append, List.cons_append, hfs]
    · refine ⟨_, .point hwhole hdigits hplaces, ?_⟩
      rw [← hsplit, List.append_assoc, List.cons_append, hfs]
  · exact ⟨whole, .whole (fun h => hnone ⟨h, rfl⟩) hdigits, hsplit.symm⟩

/-- No number that a text starts with is longer than the one that is read. -/
theorem isSuffix_of_leadingNumber? {s rest t rest' : List Char} {n n' : Numeral}
    (h : leadingNumber? s = some (n, rest)) (ht : Writes t n') (hs : s = t ++ rest') :
    rest <:+ rest' := by
  obtain ⟨m, after, hread, hsuffix⟩ := ht.exists_leadingNumber? rest'
  rw [hs, hread] at h
  obtain ⟨-, rfl⟩ := by simpa using h
  exact hsuffix

/-! ## Integers -/

/-- A run of digits of any scripts is read as an integer, unless it is too long. -/
theorem Number.readInteger?_of_forall {s : List Char} (hs : ∀ c ∈ s, isDigit c) :
    readInteger? s =
      if s ≠ [] ∧ s.length ≤ Text.digitLimit then some (Text.digitsValue s : Int) else none := by
  have hnumeric (c) (hc : c ∈ s) : IsNumeric c := isNumeric_of_isDigit (hs c hc)
  have hall : s.all isDigit := List.all_eq_true.2 hs
  have hmargins := withoutMargins?_of_forall fun c hc => (hnumeric c hc).isMargin
  simp only [readInteger?, hmargins, Option.bind_some,
    readSign_of_forall hnumeric, hall, true_and, Bool.false_eq_true, if_false]

end Billing
