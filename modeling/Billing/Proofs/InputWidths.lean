import Billing.Item.Sheet
import Billing.Proofs.Trimming
import Mathlib.Data.List.Forall2

/-!
# Input in either width

Commas and digits may be typed in full width or in half width, in one text both. Texts that differ
in nothing else (`IsAlike`) hold the same lines and items, wherever the commas and digits stand in
them.

* `isAlike_iff`: such texts are those with one half width.
* `splitOn_map`: characters that are replaced by others do not move the cuts.
* `sheet_reads_alike`: their sheets are read alike, line by line.
-/

namespace Billing

namespace Text

/-! ## Characters in either width -/

/-- The commas. -/
def commas : List Char := [',', '、', '，']

/-- A digit in half and in full width. -/
def digitForms (n : Nat) : List Char := [Char.ofNat (0x30 + n), Char.ofNat (0xFF10 + n)]

/-- The same character, or two forms of a comma or of one digit. -/
inductive AlikeChar : Char → Char → Prop
  | same (c : Char) : AlikeChar c c
  | comma {c d : Char} (left : c ∈ commas) (right : d ∈ commas) : AlikeChar c d
  | digit {n : Nat} {c d : Char} (lt : n < 10) (left : c ∈ digitForms n)
      (right : d ∈ digitForms n) : AlikeChar c d

theorem mem_commas_iff {c : Char} : c ∈ commas ↔ halfWidth c = ',' := by
  constructor
  · intro h
    simp only [commas, List.mem_cons, List.not_mem_nil, or_false] at h
    obtain rfl | rfl | rfl := h <;> decide
  · intro h
    obtain hc | ⟨rfl | rfl, -⟩ | ⟨n, hn, -, hc⟩ := halfWidth_eq_or c
    · rw [← hc, h]
      decide
    · decide
    · decide
    · have : ∀ n < 10, Char.ofNat (0x30 + n) ≠ ',' := by decide
      exact absurd (hc.symm.trans h) (this n hn)

theorem mem_digitForms_iff {n : Nat} (hn : n < 10) {c : Char} :
    c ∈ digitForms n ↔ halfWidth c = Char.ofNat (0x30 + n) := by
  constructor
  · intro h
    have ascii : ∀ n < 10, halfWidth (Char.ofNat (0x30 + n)) = Char.ofNat (0x30 + n) := by decide
    simp only [digitForms, List.mem_cons, List.not_mem_nil, or_false] at h
    obtain rfl | rfl := h
    · exact ascii n hn
    · exact halfWidth_digit n hn
  · intro h
    obtain hc | ⟨-, hc⟩ | ⟨m, hm, rfl, hc⟩ := halfWidth_eq_or c
    · rw [← hc, h]
      exact List.mem_cons_self
    · have : ∀ n < 10, Char.ofNat (0x30 + n) ≠ ',' := by decide
      exact absurd (h.symm.trans hc) (this n hn)
    · have : ∀ m < 10, ∀ n < 10, Char.ofNat (0x30 + m) = Char.ofNat (0x30 + n) → m = n := by decide
      obtain rfl := this m hm n hn (hc.symm.trans h)
      exact List.mem_cons_of_mem _ List.mem_cons_self

theorem alikeChar_iff {c d : Char} : AlikeChar c d ↔ halfWidth c = halfWidth d := by
  constructor
  · rintro (_ | ⟨hc, hd⟩ | ⟨hn, hc, hd⟩)
    · rfl
    · rw [mem_commas_iff.1 hc, mem_commas_iff.1 hd]
    · rw [(mem_digitForms_iff hn).1 hc, (mem_digitForms_iff hn).1 hd]
  · intro h
    -- a character that is changed on either side says what both are
    obtain hc | ⟨-, hc⟩ | ⟨n, hn, -, hc⟩ := halfWidth_eq_or c
    · obtain hd | ⟨-, hd⟩ | ⟨n, hn, -, hd⟩ := halfWidth_eq_or d
      · rw [← hc, h, hd]
        exact .same d
      · exact .comma (mem_commas_iff.2 (h.trans hd)) (mem_commas_iff.2 hd)
      · exact .digit hn ((mem_digitForms_iff hn).2 (h.trans hd)) ((mem_digitForms_iff hn).2 hd)
    · exact .comma (mem_commas_iff.2 hc) (mem_commas_iff.2 (h.symm.trans hc))
    · exact .digit hn ((mem_digitForms_iff hn).2 hc) ((mem_digitForms_iff hn).2 (h.symm.trans hc))

/-- Texts that differ in the width of commas and digits only. -/
def IsAlike (t u : String) : Prop := List.Forall₂ AlikeChar t.toList u.toList

theorem isAlike_iff {t u : String} : IsAlike t u ↔ toHalfWidth t = toHalfWidth u := by
  rw [toHalfWidth, toHalfWidth, String.ofList_inj, ← List.forall₂_eq_eq_eq,
    List.forall₂_map_left_iff, List.forall₂_map_right_iff]
  exact ⟨.imp fun _ _ => alikeChar_iff.1, .imp fun _ _ => alikeChar_iff.2⟩

/-! ## Lines and blanks -/

/-- A text is cut at the same places when its characters are replaced, unless one is replaced by the
separator or the separator by another. -/
theorem splitOn_map {f : Char → Char} {sep : Char} (h : ∀ c, f c = sep ↔ c = sep)
    (s : List Char) : splitOn sep (s.map f) = (splitOn sep s).map (List.map f) := by
  have hcomp : (· != sep) ∘ f = (· != sep) := by
    funext c
    simp only [Function.comp_apply, bne, beq_eq_decide, h c]
  fun_induction splitOn sep s with
  | case1 s hs =>
    rw [splitOn, List.dropWhile_map, hcomp, hs]
    rfl
  | case2 s c rest hs ih =>
    rw [splitOn, List.dropWhile_map, List.takeWhile_map, hcomp, hs, List.map_cons, List.map_cons,
      ← ih]

theorem halfWidth_eq_newline_iff (c : Char) : halfWidth c = '\n' ↔ c = '\n' := by
  refine ⟨eq_of_halfWidth_eq (by decide) (by decide), ?_⟩
  rintro rfl
  decide

theorem lines_toHalfWidth (t : String) : lines (toHalfWidth t) = (lines t).map toHalfWidth := by
  simp only [lines, pieces, toHalfWidth, String.toList_ofList,
    splitOn_map halfWidth_eq_newline_iff, List.map_map, Function.comp_def]

theorem strip_toHalfWidth (t : String) : strip (toHalfWidth t) = toHalfWidth (strip t) := by
  simp only [strip, toHalfWidth, String.toList_ofList, trim_map_halfWidth]

theorem isEmpty_toHalfWidth (t : String) : (toHalfWidth t).isEmpty = t.isEmpty := by
  rw [Bool.eq_iff_iff, String.isEmpty_iff, String.isEmpty_iff, ← String.toList_eq_nil_iff,
    ← String.toList_eq_nil_iff, toHalfWidth, String.toList_ofList, List.map_eq_nil_iff]

end Text

/-! ## Sheets -/

open Text (IsAlike toHalfWidth lines strip)

theorem Item.ofSheetLine?_toHalfWidth (line : String) :
    ofSheetLine? (toHalfWidth line) = ofSheetLine? line := by
  simp only [ofSheetLine?, Text.strip_toHalfWidth, Text.isEmpty_toHalfWidth,
    Text.toHalfWidth_toHalfWidth]

theorem Item.ofSheetLine?_comp_toHalfWidth : ofSheetLine? ∘ toHalfWidth = ofSheetLine? := by
  funext line
  rw [Function.comp_apply, ofSheetLine?_toHalfWidth]

theorem Item.ofSheet_toHalfWidth (t : String) : ofSheet (toHalfWidth t) = ofSheet t := by
  rw [ofSheet, ofSheet, Text.lines_toHalfWidth, List.mapM_map, ofSheetLine?_comp_toHalfWidth]

theorem Item.ofSheet_of_isAlike {t u : String} (h : IsAlike t u) : ofSheet t = ofSheet u := by
  rw [← ofSheet_toHalfWidth t, ← ofSheet_toHalfWidth u, Text.isAlike_iff.1 h]

/-- The lines of texts that are alike enter the same, one by one. -/
theorem Item.map_ofSheetLine?_of_isAlike {t u : String} (h : IsAlike t u) :
    (lines t).map ofSheetLine? = (lines u).map ofSheetLine? := by
  have hlines (s : String) :
      (lines s).map ofSheetLine? = (lines (toHalfWidth s)).map ofSheetLine? := by
    rw [Text.lines_toHalfWidth, List.map_map, ofSheetLine?_comp_toHalfWidth]
  rw [hlines t, hlines u, Text.isAlike_iff.1 h]

/-- Texts that differ in the width of commas and digits only are read alike: the sheet as a whole,
refused or not, and each of its lines, of which the blank ones are the same. -/
theorem sheet_reads_alike (t u : String) :
    (IsAlike t u ↔ toHalfWidth t = toHalfWidth u) ∧
    (IsAlike t u → Item.ofSheet t = Item.ofSheet u ∧
      (lines t).map Item.ofSheetLine? = (lines u).map Item.ofSheetLine?) ∧
    Item.ofSheet (toHalfWidth t) = Item.ofSheet t ∧
    lines (toHalfWidth t) = (lines t).map toHalfWidth ∧
    ∀ line, strip (toHalfWidth line) = toHalfWidth (strip line) ∧
      ((strip (toHalfWidth line)).isEmpty ↔ (strip line).isEmpty) := by
  refine ⟨Text.isAlike_iff, fun h => ?_, Item.ofSheet_toHalfWidth t, Text.lines_toHalfWidth t,
    fun line => ?_⟩
  · exact ⟨Item.ofSheet_of_isAlike h, Item.map_ofSheetLine?_of_isAlike h⟩
  · have hstrip := Text.strip_toHalfWidth line
    exact ⟨hstrip, by rw [hstrip, Text.isEmpty_toHalfWidth]⟩

/-- A line with full-width separators and digits, and the same line in half width. -/
theorem ofSheet_in_either_width :
    IsAlike "コーン標識、１０，３５００" "コーン標識,10,3500" ∧
      Item.ofSheet "コーン標識、１０，３５００" = Item.ofSheet "コーン標識,10,3500" := by
  have hwidth : IsAlike "コーン標識、１０，３５００" "コーン標識,10,3500" :=
    Text.isAlike_iff.2 (by decide)
  exact ⟨hwidth, ((sheet_reads_alike _ _).2.1 hwidth).1⟩

end Billing
