import Billing.Text.Blank
import Billing.Text.Digit
import Billing.Text.HalfWidth
import Billing.Text.Lines
import Mathlib.Data.List.DropRight
import Mathlib.Data.List.Infix

/-!
# Trimming and half width

Where blanks are cut off a text that is put together from others, and what a text in half width has
in common with the text: its blanks, its digits, and every part without commas and digits.

* `trim_append_cons`, `trimRight_append_cons`: trimming stops at a character that is no blank.
* `trim_append_left`, `trim_append_right`: blanks at either end are cut off.
* `trim_map_halfWidth`: blanks are blanks in either width.
* `contains_iff`: what it means that a text contains another.
-/

namespace Billing.Text

/-! ## Trimming -/

theorem dropRightWhile_append_cons {p : Char → Bool} {c : Char} (hc : p c = false)
    (u v : List Char) : dropRightWhile p (u ++ c :: v) = u ++ c :: dropRightWhile p v := by
  have hrest : (c :: u.reverse).dropWhile p = c :: u.reverse :=
    List.dropWhile_cons_of_neg (by simp [hc])
  simp only [dropRightWhile, List.reverse_append, List.reverse_cons, List.append_assoc,
    List.singleton_append, List.dropWhile_append, hrest]
  split
  · rename_i hempty
    simp [List.isEmpty_iff.1 hempty]
  · simp

theorem trimRight_append_cons {c : Char} (hc : isBlank c = false) (u v : List Char) :
    trimRight (u ++ c :: v) = u ++ c :: trimRight v :=
  dropRightWhile_append_cons hc u v

theorem trimRight_append {u : List Char} (hu : ∀ c ∈ u, isBlank c = false) (v : List Char) :
    trimRight (u ++ v) = u ++ trimRight v := by
  induction u with
  | nil => rfl
  | cons c u ih =>
    obtain ⟨hc, hu⟩ := List.forall_mem_cons.1 hu
    rw [List.cons_append, ← List.nil_append (c :: (u ++ v)), trimRight_append_cons hc, ih hu]
    rfl

theorem trimRight_of_forall {s : List Char} (h : ∀ c ∈ s, isBlank c = false) : trimRight s = s := by
  have := trimRight_append h []
  rwa [List.append_nil, show trimRight [] = [] from rfl, List.append_nil] at this

/-- A text with other characters than blanks has a first one. -/
theorem exists_of_not_isBlank {s : List Char} (h : ¬ IsBlank s) :
    ∃ blanks c rest, s = blanks ++ c :: rest ∧ IsBlank blanks ∧ isBlank c = false := by
  induction s with
  | nil => exact absurd (List.forall_mem_nil _) h
  | cons c s ih =>
    cases hc : isBlank c with
    | false => exact ⟨[], c, s, rfl, List.forall_mem_nil _, hc⟩
    | true =>
      obtain ⟨blanks, d, rest, rfl, hblanks, hd⟩ :=
        ih fun hs => h (List.forall_mem_cons.2 ⟨hc, hs⟩)
      exact ⟨c :: blanks, d, rest, rfl, List.forall_mem_cons.2 ⟨hc, hblanks⟩, hd⟩

/-- Trimming stops at the first character that is no blank. -/
theorem trim_append_cons {blanks : List Char} {c : Char} (hblanks : IsBlank blanks)
    (hc : isBlank c = false) (rest : List Char) :
    trim (blanks ++ c :: rest) = c :: trimRight rest := by
  have hleft : trimLeft (blanks ++ c :: rest) = c :: rest := by
    rw [trimLeft, List.dropWhile_append_of_pos hblanks, List.dropWhile_cons_of_neg (by simp [hc])]
  rw [trim, hleft]
  exact trimRight_append_cons hc [] rest

theorem trim_cons {c : Char} (hc : isBlank c = false) (s : List Char) :
    trim (c :: s) = c :: trimRight s :=
  trim_append_cons (List.forall_mem_nil _) hc s

theorem trim_cons_of_isBlank {c : Char} (hc : isBlank c) (s : List Char) :
    trim (c :: s) = trim s := by
  rw [trim, trimLeft, List.dropWhile_cons_of_pos hc]
  rfl

/-- Nothing is cut off the start of a text that starts with other characters than blanks. -/
theorem trim_append_of_forall {u : List Char} (some : u ≠ []) (hu : ∀ c ∈ u, isBlank c = false)
    (v : List Char) : trim (u ++ v) = u ++ trimRight v := by
  obtain ⟨c, u, rfl⟩ := List.exists_cons_of_ne_nil some
  obtain ⟨hc, hu⟩ := List.forall_mem_cons.1 hu
  rw [List.cons_append, trim_cons hc, trimRight_append hu]
  rfl

theorem trim_of_forall {s : List Char} (h : ∀ c ∈ s, isBlank c = false) : trim s = s := by
  cases s with
  | nil => rfl
  | cons c s =>
    obtain ⟨hc, hs⟩ := List.forall_mem_cons.1 h
    rw [trim_cons hc, trimRight_of_forall hs]

theorem trim_of_isBlank {s : List Char} (h : IsBlank s) : trim s = [] := by
  rw [trim, trimLeft, List.dropWhile_eq_nil_iff.2 h]
  rfl

theorem trim_ne_nil {s : List Char} (h : ¬ IsBlank s) : trim s ≠ [] := by
  obtain ⟨blanks, c, rest, rfl, hblanks, hc⟩ := exists_of_not_isBlank h
  rw [trim_append_cons hblanks hc]
  exact List.cons_ne_nil _ _

theorem trim_trimRight (s : List Char) : trim (trimRight s) = trim s := by
  by_cases hs : IsBlank s
  · rw [trim_of_isBlank hs, trimRight, dropRightWhile,
      List.dropWhile_eq_nil_iff.2 fun c hc => hs c (List.mem_reverse.1 hc)]
    rfl
  · obtain ⟨blanks, c, rest, rfl, hblanks, hc⟩ := exists_of_not_isBlank hs
    rw [trimRight_append_cons hc, trim_append_cons hblanks hc, trim_append_cons hblanks hc,
      trimRight_trimRight]

theorem trim_append_left {blanks : List Char} (h : IsBlank blanks) (s : List Char) :
    trim (blanks ++ s) = trim s := by
  rw [trim, trimLeft, List.dropWhile_append_of_pos h]
  rfl

theorem trimRight_append_right {blanks : List Char} (h : IsBlank blanks) (s : List Char) :
    trimRight (s ++ blanks) = trimRight s := by
  have hblanks : ∀ c ∈ blanks.reverse, isBlank c := fun c hc => h c (List.mem_reverse.1 hc)
  rw [trimRight, dropRightWhile, List.reverse_append, List.dropWhile_append_of_pos hblanks]
  rfl

theorem trim_append_right {blanks : List Char} (h : IsBlank blanks) (s : List Char) :
    trim (s ++ blanks) = trim s := by
  rw [← trim_trimRight, trimRight_append_right h, trim_trimRight]

theorem trimRight_isPrefix (s : List Char) : trimRight s <+: s := List.rdropWhile_prefix isBlank s

theorem mem_head?_of_trimRight {s : List Char} {c : Char} (h : c ∈ (trimRight s).head?) :
    c ∈ s.head? := by
  obtain ⟨rest, hs⟩ := trimRight_isPrefix s
  rw [← hs, List.head?_append, Option.mem_def.1 h, Option.some_or]
  rfl

theorem trim_isInfix (s : List Char) : trim s <:+: s :=
  (trimRight_isPrefix _).isInfix.trans (List.dropWhile_suffix isBlank).isInfix

/-! ## Half width -/

/-- Every character that is changed becomes a comma or a digit. -/
theorem halfWidth_eq_or (c : Char) :
    halfWidth c = c ∨ (c = '、' ∨ c = '，') ∧ halfWidth c = ',' ∨
      ∃ n < 10, c = Char.ofNat (0xFF10 + n) ∧ halfWidth c = Char.ofNat (0x30 + n) := by
  by_cases hcomma : c = '、' ∨ c = '，'
  · exact .inr (.inl ⟨hcomma, if_pos hcomma⟩)
  · by_cases hdigit : '０' ≤ c ∧ c ≤ '９'
    · have hrange : 0xFF10 ≤ c.toNat ∧ c.toNat ≤ 0xFF19 := ⟨hdigit.1, hdigit.2⟩
      have hc : c = Char.ofNat (0xFF10 + (c.toNat - 0xFF10)) := by
        rw [Nat.add_sub_cancel' hrange.1, Char.ofNat_toNat]
      refine .inr (.inr ⟨c.toNat - 0xFF10, by omega, hc, ?_⟩)
      conv_lhs => rw [hc]
      exact halfWidth_digit _ (by omega)
    · exact .inl (by simp [halfWidth, hcomma, hdigit])

/-- What commas and digits have in common in both widths, every character has in common with its
half width. -/
theorem eq_halfWidth {β : Type} {f : Char → β} (hcomma : f '、' = f ',') (hwide : f '，' = f ',')
    (hdigit : ∀ n < 10, f (Char.ofNat (0xFF10 + n)) = f (Char.ofNat (0x30 + n))) (c : Char) :
    f (halfWidth c) = f c := by
  obtain h | ⟨rfl | rfl, h⟩ | ⟨n, hn, rfl, h⟩ := halfWidth_eq_or c
  · rw [h]
  · rw [h, hcomma]
  · rw [h, hwide]
  · rw [h, hdigit n hn]

theorem isBlank_halfWidth (c : Char) : isBlank (halfWidth c) = isBlank c :=
  eq_halfWidth (by decide) (by decide) (by decide) c

theorem isDigit_halfWidth (c : Char) : isDigit (halfWidth c) = isDigit c :=
  eq_halfWidth (by decide) (by decide) (by decide) c

theorem isBlank_comp_halfWidth : isBlank ∘ halfWidth = isBlank := funext isBlank_halfWidth

theorem trimLeft_map_halfWidth (s : List Char) :
    trimLeft (s.map halfWidth) = (trimLeft s).map halfWidth := by
  rw [trimLeft, List.dropWhile_map, isBlank_comp_halfWidth, trimLeft]

theorem trimRight_map_halfWidth (s : List Char) :
    trimRight (s.map halfWidth) = (trimRight s).map halfWidth := by
  rw [trimRight, trimRight, dropRightWhile, dropRightWhile, ← List.map_reverse, List.dropWhile_map,
    isBlank_comp_halfWidth, List.map_reverse]

theorem trim_map_halfWidth (s : List Char) :
    trim (s.map halfWidth) = (trim s).map halfWidth := by
  rw [trim, trimLeft_map_halfWidth, trimRight_map_halfWidth, trim]

theorem map_halfWidth_of_forall {s : List Char} (h : ∀ c ∈ s, halfWidth c = c) :
    s.map halfWidth = s :=
  (List.map_congr_left h).trans (List.map_id s)

/-- A character that is no comma and no digit is the half width of itself only. -/
theorem eq_of_halfWidth_eq {c d : Char} (hcomma : d ≠ ',') (hdigit : isDigit d = false)
    (h : halfWidth c = d) : c = d := by
  obtain hc | ⟨-, hc⟩ | ⟨n, hn, -, hc⟩ := halfWidth_eq_or c
  · exact hc.symm.trans h
  · exact absurd (h.symm.trans hc) hcomma
  · rw [← h, hc, isDigit, digitValue?_ascii n hn] at hdigit
    cases hdigit

/-- A word without commas and digits that is part of a text in half width is part of the text. -/
theorem isInfix_of_map_halfWidth {w s : List Char}
    (hw : ∀ c ∈ w, c ≠ ',' ∧ isDigit c = false) (h : w <:+: s.map halfWidth) : w <:+: s := by
  obtain ⟨l, hl, rfl⟩ := List.infix_map_iff.1 h
  rwa [map_halfWidth_of_forall fun c hc => ?_]
  obtain ⟨hcomma, hdigit⟩ := hw _ (List.mem_map_of_mem hc)
  exact (eq_of_halfWidth_eq hcomma hdigit rfl).symm

/-! ## Parts of a text -/

theorem contains_iff {part s : List Char} : contains part s ↔ part <:+: s := by
  induction s with
  | nil => rw [contains, List.isEmpty_iff, List.infix_nil]
  | cons c s ih =>
    rw [contains, Bool.or_eq_true, List.isPrefixOf_iff_prefix, ih, List.infix_cons_iff]

end Billing.Text
