import Billing.Proofs.Wrapping

/-!
# Lines that are as long as they can be

Wrapping cuts every paragraph of a text into lines (`IsWrapped`) that hold all of it, of which none
is too wide unless it is a single character, and none has room for the character that the next line
starts with. Whatever counts as too wide, there is one such way to cut a paragraph, so these laws say
all there is to say of the lines.

* `wrapParagraph_of_begun`: the loop over the characters of a paragraph.
* `wrapLines_eq_iff`: the lines of a paragraph are the ones with these laws.
* `wrapText_joinWith`: lines that were wrapped are wrapped to themselves.
* `exists_parts_of_wrap`: the lines of a text, in fonts of any measure.
-/

namespace Billing

/-- All that a line starts with, the line itself included, is not too wide unless it is a single
character. -/
def FitsAlong (tooWide : List Char → Bool) (line : List Char) : Prop :=
  ∀ part, part <+: line → part.length ≤ 1 ∨ tooWide part = false

/-- A line has no room for the character that the next line starts with. -/
def IsFull (tooWide : List Char → Bool) (line next : List Char) : Prop :=
  ∃ c ∈ next.head?, tooWide (line ++ [c])

/-- The lines of a paragraph; without a test for what is too wide, there is nothing to wrap. -/
structure IsWrapped (tooWide : Option (List Char → Bool)) (paragraph : List Char)
    (lines : List (List Char)) : Prop where
  flatten_eq : lines.flatten = paragraph
  ne_nil : lines ≠ []
  single : paragraph = [] ∨ tooWide = none → lines.length = 1
  line_ne_nil : paragraph ≠ [] → [] ∉ lines
  fits : ∀ test ∈ tooWide, ∀ line ∈ lines, FitsAlong test line
  full : ∀ test ∈ tooWide, lines.IsChain (IsFull test)

/-- The lines of one paragraph. -/
def wrapLines (tooWide : Option (List Char → Bool)) (paragraph : List Char) : List (List Char) :=
  match tooWide with
  | none => [paragraph]
  | some tooWide => wrapParagraph tooWide [] paragraph

theorem wrapText_eq (tooWide : Option (List Char → Bool)) (text : List Char) :
    wrapText tooWide text = (Text.splitOn '\n' text).flatMap (wrapLines tooWide) := by
  cases tooWide <;> rfl

/-! ## The loop over a paragraph -/

section Loop

variable {tooWide : List Char → Bool} {paragraph line next s : List Char} {rest : List (List Char)}

theorem fitsAlong_of_length_le (h : line.length ≤ 1) : FitsAlong tooWide line :=
  fun _ hpart => .inl (hpart.length_le.trans h)

theorem FitsAlong.concat (h : FitsAlong tooWide line) {c : Char}
    (hc : tooWide (line ++ [c]) = false) : FitsAlong tooWide (line ++ [c]) := by
  intro part hpart
  obtain rfl | hpart := List.prefix_concat_iff.1 hpart
  · exact .inr hc
  · exact h part hpart

/-- A paragraph on one line. -/
theorem isWrapped_singleton_iff :
    IsWrapped (some tooWide) paragraph [line] ↔ line = paragraph ∧ FitsAlong tooWide line := by
  refine ⟨fun h => ⟨by simpa using h.flatten_eq, h.fits _ rfl _ List.mem_cons_self⟩, ?_⟩
  rintro ⟨rfl, hfits⟩
  constructor
  case flatten_eq => simp
  case ne_nil => simp
  case single => simp
  case line_ne_nil => simp [eq_comm]
  case fits => simpa using hfits
  case full => simp

/-- A first line with others after it. -/
theorem isWrapped_cons_iff (hline : line ≠ []) :
    IsWrapped (some tooWide) (line ++ s) (line :: next :: rest) ↔
      s ≠ [] ∧ FitsAlong tooWide line ∧ IsFull tooWide line next ∧
        IsWrapped (some tooWide) s (next :: rest) := by
  constructor
  · intro h
    have hflatten : (next :: rest).flatten = s := by simpa using h.flatten_eq
    have hne := h.line_ne_nil (by simp [hline])
    have hs : s ≠ [] := by
      rw [← hflatten]
      simp only [List.mem_cons, not_or] at hne
      simp [Ne.symm hne.2.1]
    obtain ⟨hfull, hrest⟩ := List.isChain_cons_cons.1 (h.full _ rfl)
    obtain ⟨hfits, hfitsRest⟩ := List.forall_mem_cons.1 (h.fits _ rfl)
    refine ⟨hs, hfits, hfull, hflatten, by simp, by simp [hs], fun _ hmem => ?_, ?_, ?_⟩
    · exact hne (List.mem_cons_of_mem _ hmem)
    · simpa using hfitsRest
    · simpa using hrest
  · rintro ⟨hs, hfits, hfull, h⟩
    constructor
    case flatten_eq => rw [List.flatten_cons, h.flatten_eq]
    case ne_nil => simp
    case single => simp [hline]
    case line_ne_nil =>
      intro _ hmem
      obtain hnil | hmem := List.mem_cons.1 hmem
      · exact hline hnil.symm
      · exact h.line_ne_nil hs hmem
    case fits => simpa using ⟨hfits, by simpa using h.fits _ rfl⟩
    case full => simpa using ⟨hfull, by simpa using h.full _ rfl⟩

/-- A line that is begun is the start of the first line, and the lines are those of the paragraph
that it begins. -/
theorem wrapParagraph_of_begun (hline : line ≠ []) (hfits : FitsAlong tooWide line)
    (s : List Char) :
    ∃ first rest, wrapParagraph tooWide line s = first :: rest ∧ line <+: first ∧
      IsWrapped (some tooWide) (line ++ s) (first :: rest) := by
  induction s generalizing line with
  | nil =>
    refine ⟨line, [], rfl, List.prefix_rfl, ?_⟩
    rw [isWrapped_singleton_iff, List.append_nil]
    exact ⟨rfl, hfits⟩
  | cons c s ih =>
    rw [wrapParagraph]
    by_cases hc : tooWide (line ++ [c])
    · obtain ⟨first, rest, hwrap, hstart, h⟩ :=
        ih (List.cons_ne_nil c []) (fitsAlong_of_length_le Nat.le.refl)
      rw [if_pos ⟨hline, hc⟩, hwrap]
      refine ⟨line, first :: rest, rfl, List.prefix_rfl, ?_⟩
      obtain ⟨first, rfl⟩ := hstart
      exact (isWrapped_cons_iff hline).2 ⟨List.cons_ne_nil c s, hfits, ⟨c, rfl, hc⟩, h⟩
    · obtain ⟨first, rest, hwrap, hstart, h⟩ :=
        ih (List.append_ne_nil_of_right_ne_nil line (List.cons_ne_nil c []))
          (hfits.concat (Bool.eq_false_iff.2 hc))
      rw [if_neg fun h => hc h.2, hwrap]
      refine ⟨first, rest, rfl, (List.prefix_append line [c]).trans hstart, ?_⟩
      rwa [List.append_assoc] at h

/-- Lines of a paragraph whose first line is begun are those that the loop gives. -/
theorem wrapParagraph_eq_of_begun {t : List Char} (hline : line ≠ [])
    (h : IsWrapped (some tooWide) (line ++ s) ((line ++ t) :: rest)) :
    wrapParagraph tooWide line s = (line ++ t) :: rest := by
  induction s generalizing line t rest with
  | nil =>
    have hflatten : t = [] ∧ rest.flatten = [] := by simpa using h.flatten_eq
    obtain rfl : rest = [] := by
      refine List.eq_nil_iff_forall_not_mem.2 fun l hl => ?_
      obtain rfl := List.flatten_eq_nil_iff.1 hflatten.2 l hl
      exact h.line_ne_nil (by simp [hline]) (List.mem_cons_of_mem _ hl)
    rw [hflatten.1, List.append_nil]
    rfl
  | cons c s ih =>
    rw [wrapParagraph]
    cases t with
    | nil =>
      -- the first line ends here, as the next one starts with the character
      rw [List.append_nil] at h ⊢
      cases rest with
      | nil =>
        have := (isWrapped_singleton_iff.1 h).1
        simp at this
      | cons next rest =>
        obtain ⟨-, -, ⟨c', hnext, hc⟩, h⟩ := (isWrapped_cons_iff hline).1 h
        obtain ⟨r, rfl⟩ := List.head?_eq_some_iff.1 hnext
        obtain rfl : c' = c := (List.cons.inj h.flatten_eq).1
        rw [if_pos ⟨hline, hc⟩, ih (t := r) (List.cons_ne_nil c' []) h]
        rfl
    | cons c' t =>
      obtain rfl : c' = c := by
        have := h.flatten_eq
        simp only [List.flatten_cons, List.append_assoc, List.append_cancel_left_eq,
          List.cons_append] at this
        exact (List.cons.inj this).1
      have hfits : tooWide (line ++ [c']) = false := by
        refine (h.fits _ rfl _ List.mem_cons_self (line ++ [c']) ?_).resolve_left ?_
        · rw [List.append_cons line c' t]
          exact List.prefix_append ..
        · have := List.length_pos_iff.2 hline
          simp only [List.length_append, List.length_singleton]
          omega
      rw [if_neg fun hc => Bool.eq_false_iff.1 hfits hc.2, List.append_cons line c' t]
      rw [List.append_cons line c' s, List.append_cons line c' t] at h
      exact ih (by simp) h

end Loop

/-! ## Paragraphs and texts -/

/-- A paragraph that is empty or not wrapped is one line. -/
theorem isWrapped_iff_of_single {tooWide : Option (List Char → Bool)} {paragraph : List Char}
    (hsingle : paragraph = [] ∨ tooWide = none) {lines : List (List Char)} :
    IsWrapped tooWide paragraph lines ↔ lines = [paragraph] := by
  constructor
  · intro h
    obtain ⟨line, rfl⟩ := List.length_eq_one_iff.1 (h.single hsingle)
    simpa using h.flatten_eq
  · rintro rfl
    constructor
    case flatten_eq => simp
    case ne_nil => simp
    case single => simp
    case line_ne_nil => simp [eq_comm]
    case fits =>
      rintro test htest line hline
      obtain rfl := List.mem_singleton.1 hline
      obtain rfl | rfl := hsingle
      · exact fitsAlong_of_length_le (Nat.zero_le 1)
      · cases htest
    case full => simp

/-- The lines of a paragraph are the ones with the laws of wrapped lines. -/
theorem wrapLines_eq_iff {tooWide : Option (List Char → Bool)} {paragraph : List Char}
    {lines : List (List Char)} :
    wrapLines tooWide paragraph = lines ↔ IsWrapped tooWide paragraph lines := by
  cases tooWide with
  | none => exact eq_comm.trans (isWrapped_iff_of_single (.inr rfl)).symm
  | some test =>
    cases paragraph with
    | nil => exact eq_comm.trans (isWrapped_iff_of_single (.inl rfl)).symm
    | cons c s =>
      have hstart : wrapLines (some test) (c :: s) = wrapParagraph test [c] s := rfl
      rw [hstart]
      constructor
      · rintro rfl
        obtain ⟨first, rest, hwrap, -, h⟩ :=
          wrapParagraph_of_begun (List.cons_ne_nil c []) (fitsAlong_of_length_le Nat.le.refl) s
        rwa [hwrap]
      · intro h
        obtain ⟨first, rest, rfl⟩ := List.exists_cons_of_ne_nil h.ne_nil
        have hfirst : first ≠ [] := fun hnil =>
          h.line_ne_nil (List.cons_ne_nil c s) (hnil ▸ List.mem_cons_self)
        obtain ⟨c', t, rfl⟩ := List.exists_cons_of_ne_nil hfirst
        obtain rfl : c' = c := (List.cons.inj h.flatten_eq).1
        exact wrapParagraph_eq_of_begun (List.cons_ne_nil c' []) h

theorem forall₂_isWrapped_iff {tooWide : Option (List Char → Bool)}
    {paragraphs : List (List Char)} {parts : List (List (List Char))} :
    List.Forall₂ (IsWrapped tooWide) paragraphs parts ↔
      parts = paragraphs.map (wrapLines tooWide) := by
  rw [eq_comm (a := parts), ← List.forall₂_eq_eq_eq, List.forall₂_map_left_iff]
  exact ⟨.imp fun _ _ => wrapLines_eq_iff.2, .imp fun _ _ => wrapLines_eq_iff.1⟩

/-- What was wrapped once is one line. -/
theorem wrapLines_of_mem {tooWide : Option (List Char → Bool)} {paragraph line : List Char}
    (h : line ∈ wrapLines tooWide paragraph) : wrapLines tooWide line = [line] := by
  have hwrapped : IsWrapped tooWide paragraph (wrapLines tooWide paragraph) :=
    wrapLines_eq_iff.1 rfl
  refine wrapLines_eq_iff.2 ?_
  constructor
  case flatten_eq => simp
  case ne_nil => simp
  case single => simp
  case line_ne_nil => simp [eq_comm]
  case fits => exact fun test htest => List.forall_mem_singleton.2 (hwrapped.fits test htest line h)
  case full => simp

/-- Any lines of a text, joined by newlines, are wrapped to themselves. -/
theorem wrapText_joinWith {tooWide : Option (List Char → Bool)} {text : List Char}
    {run : List (List Char)} (hrun : run ⊆ wrapText tooWide text) (hne : run ≠ []) :
    wrapText tooWide (Text.joinWith '\n' run) = run := by
  have hline (line) (hline : line ∈ run) : wrapLines tooWide line = [line] := by
    obtain ⟨paragraph, -, hmem⟩ := List.mem_flatMap.1 (wrapText_eq tooWide text ▸ hrun hline)
    exact wrapLines_of_mem hmem
  rw [wrapText_eq, Text.splitOn_joinWith hne fun line h =>
    newline_not_mem_of_mem_wrapText (hrun h), List.flatMap_def, List.map_congr_left hline,
    ← List.flatMap_def, List.flatMap_singleton']

/-- In fonts of any measure, the lines of a text are those of its paragraphs one after the other,
and the lines of each paragraph are the only ones with the laws of wrapped lines. -/
theorem exists_parts_of_wrap {α : Type} [Coordinate α] (measure : TextMeasure α)
    (typeface : Typeface) (text : List Char) (width : Option α) (size : α) :
    ∃ parts, measure.wrap typeface text width size = parts.flatten ∧
      ∀ parts', List.Forall₂
          (IsWrapped (width.map fun width line =>
            Coordinate.lt width (measure typeface size line)))
          (Text.splitOn '\n' text) parts' ↔ parts' = parts :=
  ⟨_, (wrapText_eq _ _).trans List.flatMap_def, fun _ => forall₂_isWrapped_iff⟩

/-- An empty line is too wide for a width below zero. -/
theorem exists_wide_empty_line :
    ∃ line ∈ Typeface.gothic.wrap [] (some (-1 : Binary64)) 10,
      line.length ≠ 1 ∧ Coordinate.lt (-1) (Typeface.gothic.textWidth (10 : Binary64) line) := by
  decide +kernel

end Billing
