import Billing.Canvas.Font
import Billing.Proofs.Outcome
import Mathlib.Data.List.TakeWhile

/-!
# Wrapping texts on a canvas

The two kinds of canvas (`Metrics.IsCanvas`), a grid and a printer with fonts of any measure, break
every text into at least one line. On a grid, lines that were wrapped once stay as they are: any of
them, joined by newlines and wrapped again, give themselves (`Metrics.KeepsLines`).

* `IsCanvas.wrap_ne_nil`: a wrapped text has a line.
* `grid_keepsLines`: wrapping lines of a grid again gives the same lines.
-/

namespace Billing

/-! ## Cutting and joining -/

namespace Text

theorem not_mem_of_mem_splitOn {sep : Char} {s p : List Char} (hp : p ∈ splitOn sep s) :
    sep ∉ p := by
  induction s using splitOn.induct sep with
  | case1 s h =>
    rw [splitOn] at hp
    split at hp
    · obtain rfl := List.mem_singleton.1 hp
      intro hmem
      simpa using List.dropWhile_eq_nil_iff.1 h _ hmem
    · simp_all
  | case2 s c rest h ih =>
    rw [splitOn] at hp
    split at hp
    · simp_all
    · rename_i c' rest' h'
      obtain ⟨rfl, rfl⟩ := List.cons.inj (h'.symm.trans h)
      obtain rfl | hp := List.mem_cons.1 hp
      · intro hmem
        simpa using List.mem_takeWhile_imp hmem
      · exact ih hp

theorem splitOn_of_not_mem {sep : Char} {s : List Char} (h : sep ∉ s) : splitOn sep s = [s] := by
  have : s.dropWhile (· != sep) = [] :=
    List.dropWhile_eq_nil_iff.2 fun c hc => by simpa using ne_of_mem_of_not_mem hc h
  rw [splitOn]
  split
  · rfl
  · simp_all

theorem splitOn_append {sep : Char} {p : List Char} (h : sep ∉ p) (s : List Char) :
    splitOn sep (p ++ sep :: s) = p :: splitOn sep s := by
  have hp : ∀ c ∈ p, (c != sep) = true := fun c hc => by simpa using ne_of_mem_of_not_mem hc h
  have hd : (p ++ sep :: s).dropWhile (· != sep) = sep :: s := by
    rw [List.dropWhile_append_of_pos hp]
    simp
  have ht : (p ++ sep :: s).takeWhile (· != sep) = p := by
    rw [List.takeWhile_append_of_pos hp]
    simp
  rw [splitOn]
  split
  · simp_all
  · rename_i h'
    rw [hd] at h'
    rw [ht, (List.cons.inj h').2]

theorem splitOn_joinWith {sep : Char} {ps : List (List Char)} (hne : ps ≠ [])
    (h : ∀ p ∈ ps, sep ∉ p) : splitOn sep (joinWith sep ps) = ps := by
  induction ps with
  | nil => exact absurd rfl hne
  | cons p ps ih =>
    obtain ⟨hp, hps⟩ := List.forall_mem_cons.1 h
    by_cases hnil : ps = []
    · subst hnil
      simpa [joinWith, List.intercalate] using splitOn_of_not_mem hp
    · rw [joinWith_cons hnil, splitOn_append hp, ih hnil hps]

theorem toList_unlines (ls : List String) :
    (unlines ls).toList = joinWith '\n' (ls.map String.toList) := by
  simp [unlines, joinWith, String.toList_intercalate]

end Text

/-! ## Pieces of a line -/

theorem chunks_ne_nil (count : Nat) (s : List Char) : chunks count s ≠ [] := by
  rw [chunks]
  split <;> simp

theorem chunks_of_length_le {count : Nat} {s : List Char} (h : s.length ≤ count) :
    chunks count s = [s] := by
  rw [chunks, dif_pos (.inl h)]

theorem length_le_of_mem_chunks {count : Nat} (hcount : 0 < count) {s p : List Char}
    (h : p ∈ chunks count s) : p.length ≤ count := by
  induction s using chunks.induct count with
  | case1 s hs =>
    rw [chunks, dif_pos hs, List.mem_singleton] at h
    subst h
    omega
  | case2 s hs ih =>
    rw [chunks, dif_neg hs] at h
    obtain rfl | h := List.mem_cons.1 h
    · exact List.length_take_le ..
    · exact ih h

theorem mem_of_mem_chunks {count : Nat} {s p : List Char} (h : p ∈ chunks count s) : p ⊆ s := by
  induction s using chunks.induct count with
  | case1 s hs =>
    rw [chunks, dif_pos hs, List.mem_singleton] at h
    exact h ▸ List.Subset.refl _
  | case2 s hs ih =>
    rw [chunks, dif_neg hs] at h
    obtain rfl | h := List.mem_cons.1 h
    · exact List.take_subset ..
    · exact List.Subset.trans (ih h) (List.drop_subset ..)

theorem wrapParagraph_ne_nil (tooWide : List Char → Bool) (line s : List Char) :
    wrapParagraph tooWide line s ≠ [] := by
  induction s generalizing line with
  | nil => simp [wrapParagraph]
  | cons c s ih =>
    rw [wrapParagraph]
    split
    · simp
    · exact ih _

theorem subset_of_mem_wrapParagraph {tooWide : List Char → Bool} {line s l : List Char}
    (h : l ∈ wrapParagraph tooWide line s) : l ⊆ line ++ s := by
  induction s generalizing line with
  | nil =>
    obtain rfl := List.mem_singleton.1 h
    simp
  | cons c s ih =>
    rw [wrapParagraph] at h
    split at h
    · obtain rfl | h := List.mem_cons.1 h
      · exact List.subset_append_left ..
      · exact List.Subset.trans (ih h) (List.subset_append_right ..)
    · simpa using ih h

theorem newline_not_mem_of_mem_wrapText {tooWide : Option (List Char → Bool)} {s l : List Char}
    (h : l ∈ wrapText tooWide s) : '\n' ∉ l := by
  obtain ⟨p, hp, hl⟩ := List.mem_flatMap.1 h
  have hsub : l ⊆ p := by
    cases tooWide with
    | none => exact List.mem_singleton.1 hl ▸ List.Subset.refl _
    | some tooWide => simpa using subset_of_mem_wrapParagraph hl
  exact fun hmem => Text.not_mem_of_mem_splitOn hp (hsub hmem)

theorem wrapText_ne_nil (tooWide : Option (List Char → Bool)) (s : List Char) :
    wrapText tooWide s ≠ [] := by
  intro h
  obtain ⟨p, hp⟩ := List.exists_mem_of_ne_nil _ (Text.splitOn_ne_nil '\n' s)
  rw [wrapText, List.flatMap_eq_nil_iff] at h
  have := h p hp
  cases tooWide with
  | none => simp at this
  | some tooWide => exact wrapParagraph_ne_nil _ _ _ this

/-! ## Lines of a grid -/

section Grid

variable {α : Type} [Coordinate α]

/-- The lines of a paragraph on a grid. -/
def gridPieces (width : Option α) (size : α) (paragraph : List Char) :
    Except Fault (List (List Char)) :=
  match width with
  | none => .ok [paragraph]
  | some width =>
    if paragraph = [] then .ok [[]]
    else do
      let count ← Coordinate.floorQuotient width size
      return chunks (max 1 count.toNat) paragraph

theorem gridWrap_eq (s : List Char) (width : Option α) (size : α) :
    gridWrap s width size =
      (Text.splitOn '\n' s).mapM (gridPieces width size) >>= fun ps => pure ps.flatten := by
  unfold gridWrap gridPieces
  cases width <;> rfl

theorem gridPieces_ne_nil {width : Option α} {size : α} {paragraph : List Char}
    {ps : List (List Char)} (h : gridPieces width size paragraph = .ok ps) : ps ≠ [] := by
  unfold gridPieces at h
  split at h
  · obtain rfl := Except.ok.inj h
    simp
  · split at h
    · obtain rfl := Except.ok.inj h
      simp
    · simp only [bind_eq_ok, pure_eq_ok] at h
      obtain ⟨count, -, rfl⟩ := h
      exact chunks_ne_nil _ _

/-- A piece of a paragraph is a piece by itself. -/
theorem gridPieces_of_mem {width : Option α} {size : α} {paragraph p : List Char}
    {ps : List (List Char)} (h : gridPieces width size paragraph = .ok ps) (hp : p ∈ ps) :
    gridPieces width size p = .ok [p] ∧ p ⊆ paragraph := by
  unfold gridPieces at h ⊢
  split at h
  · obtain rfl := Except.ok.inj h
    obtain rfl := List.mem_singleton.1 hp
    exact ⟨rfl, List.Subset.refl _⟩
  · split at h
    · obtain rfl := Except.ok.inj h
      obtain rfl := List.mem_singleton.1 hp
      exact ⟨rfl, List.nil_subset _⟩
    · simp only [bind_eq_ok, pure_eq_ok] at h
      obtain ⟨count, hcount, rfl⟩ := h
      refine ⟨?_, mem_of_mem_chunks hp⟩
      split
      · rename_i hnil
        rw [hnil]
      · simp only [bind_eq_ok, pure_eq_ok]
        exact ⟨count, hcount, chunks_of_length_le (length_le_of_mem_chunks (by omega) hp)⟩

theorem gridWrap_ne_nil {s : List Char} {width : Option α} {size : α} {ls : List (List Char)}
    (h : gridWrap s width size = .ok ls) : ls ≠ [] := by
  simp only [gridWrap_eq, bind_eq_ok, pure_eq_ok, mapM_eq_ok] at h
  obtain ⟨pss, hpss, rfl⟩ := h
  generalize hpieces : Text.splitOn '\n' s = pieces at hpss
  cases hpss with
  | nil => exact absurd hpieces (Text.splitOn_ne_nil _ _)
  | cons hps _ => simp [gridPieces_ne_nil hps]

theorem newline_not_mem_of_mem_gridWrap {s l : List Char} {width : Option α} {size : α}
    {ls : List (List Char)} (h : gridWrap s width size = .ok ls) (hl : l ∈ ls) : '\n' ∉ l := by
  simp only [gridWrap_eq, bind_eq_ok, pure_eq_ok] at h
  obtain ⟨pss, hpss, rfl⟩ := h
  obtain ⟨ps, hps, hl⟩ := List.mem_flatten.1 hl
  obtain ⟨paragraph, hparagraph, hpieces⟩ := exists_of_mem_mapM hpss hps
  exact fun hmem =>
    Text.not_mem_of_mem_splitOn hparagraph ((gridPieces_of_mem hpieces hl).2 hmem)

theorem gridWrap_none (s : List Char) (size : α) :
    gridWrap s none size = .ok (Text.splitOn '\n' s) := by
  have h : (Text.splitOn '\n' s).mapM (gridPieces none size) = .ok _ :=
    mapM_eq_ok_map (g := fun p => [p]) fun _ _ => rfl
  rw [gridWrap_eq, h]
  simp [bind, Except.bind, pure, Except.pure, ← List.flatMap_def]

theorem gridWrap_joinWith {s : List Char} {width : Option α} {size : α} {ls run : List (List Char)}
    (h : gridWrap s width size = .ok ls) (hrun : run ⊆ ls) (hne : run ≠ []) :
    gridWrap (Text.joinWith '\n' run) width size = .ok run := by
  have hgrid := h
  simp only [gridWrap_eq, bind_eq_ok, pure_eq_ok] at hgrid
  obtain ⟨pss, hpss, rfl⟩ := hgrid
  have hpieces : ∀ p ∈ run, gridPieces width size p = .ok [p] ∧ '\n' ∉ p := by
    intro p hp
    obtain ⟨ps, hps, hmem⟩ := List.mem_flatten.1 (hrun hp)
    obtain ⟨paragraph, -, hpieces⟩ := exists_of_mem_mapM hpss hps
    exact ⟨(gridPieces_of_mem hpieces hmem).1, newline_not_mem_of_mem_gridWrap h (hrun hp)⟩
  rw [gridWrap_eq, Text.splitOn_joinWith hne fun p hp => (hpieces p hp).2,
    mapM_eq_ok_map fun p hp => (hpieces p hp).1]
  simp [bind, Except.bind, pure, Except.pure, ← List.flatMap_def]

end Grid

/-! ## The two kinds of canvas -/

namespace Metrics

variable {α : Type} [Coordinate α]

section Measure

variable {measure : TextMeasure α} {pageWidth : α} {s l : String} {width : Option α}
  {typeface : Typeface} {size : α} {ls : List String}

theorem ofMeasure_wrap_eq_ok :
    (ofMeasure measure pageWidth).wrap s width typeface size = .ok ls ↔
      (measure.wrap typeface s.toList width size).map String.ofList = ls :=
  ⟨Except.ok.inj, congrArg Except.ok⟩

theorem ofMeasure_wrap_ne_nil
    (h : (ofMeasure measure pageWidth).wrap s width typeface size = .ok ls) : ls ≠ [] := by
  obtain rfl := ofMeasure_wrap_eq_ok.1 h
  exact fun hnil => wrapText_ne_nil _ _ (List.map_eq_nil_iff.1 hnil)

theorem ofMeasure_newline_not_mem
    (h : (ofMeasure measure pageWidth).wrap s width typeface size = .ok ls) (hl : l ∈ ls) :
    '\n' ∉ l.toList := by
  obtain rfl := ofMeasure_wrap_eq_ok.1 h
  obtain ⟨piece, hpiece, rfl⟩ := List.mem_map.1 hl
  simpa using newline_not_mem_of_mem_wrapText hpiece

theorem ofMeasure_textHeight
    (h : (ofMeasure measure pageWidth).wrap s width typeface size = .ok ls) (lineGap : α) :
    (ofMeasure measure pageWidth).textHeight s width typeface size lineGap =
      .ok (linesHeight ls.length size lineGap) := by
  obtain rfl := ofMeasure_wrap_eq_ok.1 h
  rw [List.length_map]
  rfl

end Measure

/-- The metrics of a canvas: a grid, or a printer with fonts of some measure. -/
inductive IsCanvas : Metrics α → Prop
  | grid (pageWidth : α) : IsCanvas (.grid pageWidth)
  | ofMeasure (measure : TextMeasure α) (pageWidth : α) : IsCanvas (.ofMeasure measure pageWidth)

theorem IsCanvas.print (pageWidth : α) : IsCanvas (.print pageWidth) := .ofMeasure ..

theorem IsCanvas.wrap_ne_nil {metrics : Metrics α} (canvas : metrics.IsCanvas) {s : String}
    {width : Option α} {typeface : Typeface} {size : α} {ls : List String}
    (h : metrics.wrap s width typeface size = .ok ls) : ls ≠ [] := by
  cases canvas with
  | grid pageWidth =>
    obtain ⟨pieces, hpieces, rfl⟩ := exceptMap_eq_ok.1 h
    simpa using gridWrap_ne_nil hpieces
  | ofMeasure => exact ofMeasure_wrap_ne_nil h

theorem IsCanvas.newline_not_mem {metrics : Metrics α} (canvas : metrics.IsCanvas) {s l : String}
    {width : Option α} {typeface : Typeface} {size : α} {ls : List String}
    (h : metrics.wrap s width typeface size = .ok ls) (hl : l ∈ ls) : '\n' ∉ l.toList := by
  cases canvas with
  | grid pageWidth =>
    obtain ⟨pieces, hpieces, rfl⟩ := exceptMap_eq_ok.1 h
    obtain ⟨piece, hpiece, rfl⟩ := List.mem_map.1 hl
    simpa using newline_not_mem_of_mem_gridWrap hpieces hpiece
  | ofMeasure => exact ofMeasure_newline_not_mem h hl

theorem IsCanvas.textHeight_of_wrap {metrics : Metrics α} (canvas : metrics.IsCanvas) {s : String}
    {width : Option α} {typeface : Typeface} {size : α} {ls : List String}
    (h : metrics.wrap s width typeface size = .ok ls) (lineGap : α) :
    metrics.textHeight s width typeface size lineGap =
      .ok (linesHeight ls.length size lineGap) := by
  cases canvas with
  | grid =>
    obtain ⟨pieces, hpieces, rfl⟩ := exceptMap_eq_ok.1 h
    exact exceptMap_eq_ok.2 ⟨pieces, hpieces, by rw [List.length_map]⟩
  | ofMeasure => exact ofMeasure_textHeight h lineGap

theorem IsCanvas.textHeight_none {metrics : Metrics α} (canvas : metrics.IsCanvas) (s : String)
    (typeface : Typeface) (size lineGap : α) :
    metrics.textHeight s none typeface size lineGap =
      .ok (linesHeight (Text.splitOn '\n' s.toList).length size lineGap) := by
  cases canvas with
  | grid => exact exceptMap_eq_ok.2 ⟨_, gridWrap_none _ _, rfl⟩
  | ofMeasure =>
    refine exceptMap_eq_ok.2 ⟨_, rfl, ?_⟩
    simp [TextMeasure.wrap, wrapText]

/-- A text without newlines that is not wrapped is one line high. -/
theorem IsCanvas.textHeight_line {metrics : Metrics α} (canvas : metrics.IsCanvas) {s : String}
    (h : '\n' ∉ s.toList) (typeface : Typeface) (size lineGap : α) :
    metrics.textHeight s none typeface size lineGap = .ok (linesHeight 1 size lineGap) := by
  rw [canvas.textHeight_none, Text.splitOn_of_not_mem h, List.length_singleton]

/-- The first of the lines of a text is one line high. -/
theorem IsCanvas.textHeight_headD {metrics : Metrics α} (canvas : metrics.IsCanvas) {s : String}
    {width : Option α} {typeface : Typeface} {size : α} {ls : List String}
    (h : metrics.wrap s width typeface size = .ok ls) (typeface' : Typeface) (size' lineGap : α) :
    metrics.textHeight (ls.headD "") none typeface' size' lineGap =
      .ok (linesHeight 1 size' lineGap) := by
  have hmem : ls.headD "" ∈ ls := by
    cases ls with
    | nil => exact absurd rfl (canvas.wrap_ne_nil h)
    | cons l ls => exact List.mem_cons_self
  exact canvas.textHeight_line (canvas.newline_not_mem h hmem) typeface' size' lineGap

/-- Lines that were wrapped once stay as they are: any of them, joined by newlines, are wrapped to
themselves. -/
def KeepsLines (metrics : Metrics α) : Prop :=
  ∀ ⦃s width typeface size ls⦄, metrics.wrap s width typeface size = .ok ls →
    ∀ ⦃run⦄, run ⊆ ls → run ≠ [] →
      metrics.wrap (Text.unlines run) width typeface size = .ok run

theorem grid_keepsLines (pageWidth : α) : (grid pageWidth).KeepsLines := by
  intro s width typeface size ls h run hrun hne
  obtain ⟨pieces, hpieces, rfl⟩ := exceptMap_eq_ok.1 h
  have hsub : run.map String.toList ⊆ pieces := by
    intro p hp
    obtain ⟨l, hl, rfl⟩ := List.mem_map.1 hp
    obtain ⟨piece, hpiece, rfl⟩ := List.mem_map.1 (hrun hl)
    rwa [String.toList_ofList]
  refine exceptMap_eq_ok.2 ⟨run.map String.toList, ?_, by simp [Function.comp_def]⟩
  rw [Text.toList_unlines]
  exact gridWrap_joinWith hpieces hsub (by simpa using hne)

end Metrics

end Billing
