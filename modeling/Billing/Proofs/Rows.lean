import Billing.Proofs.Drawing.Success

/-!
# The rows of a document

However a table is broken into pages, the row segments that are drawn hold all lines of all names,
once each and in order (`RowRun.flatMap_lines`), and the figures of an entry stand on its first
segment only (`RowRun.exists_first`).

* `exists_rows_of_render`: the rows of a rendered document.
-/

namespace Billing

/-- The figures are those of the entry: its amount, and unless it is derived its quantity and its
unit price. -/
structure Entry.Shows (x : Entry) (f : Figures) : Prop where
  amount : yen x.amount = .ok f.amount
  of_standard : x.category = .standard →
    f.quantity = some (quantityText x) ∧ ∃ price, yen x.unitPrice = .ok price ∧
      f.price = some price
  of_derived : x.category ≠ .standard → f.quantity = none ∧ f.price = none

theorem Entry.shows_of_figures {x : Entry} {f : Figures} (h : x.figures = .ok f) : x.Shows f := by
  simp only [Entry.figures, Entry.unitPriceHidden, Entry.quantityHidden] at h
  cases hc : x.category with
  | standard =>
    simp only [hc, Category.isDerived, Bool.false_eq_true, ↓reduceIte, bind_eq_ok, map_eq_ok,
      pure_eq_ok] at h
    obtain ⟨_, ⟨price, hprice, rfl⟩, amount, hamount, rfl⟩ := h
    exact ⟨hamount, fun _ => ⟨rfl, price, hprice, rfl⟩, fun hd => absurd hc hd⟩
  | percentageSurcharge | welfareLevy =>
    simp only [hc, Category.isDerived, ↓reduceIte, bind_eq_ok, pure_eq_ok, exists_eq_left'] at h
    obtain ⟨amount, hamount, rfl⟩ := h
    exact ⟨hamount, fun hs => by simp [hc] at hs, fun _ => ⟨rfl, rfl⟩⟩

namespace Layout

variable {α : Type} [Coordinate α]

/-- The segments of an entry: their lines are those of its name, a single segment shows the name
itself and one of several its own lines, and the first one shows the figures. -/
structure IsRow (metrics : Metrics α) (p : LayoutParams α) (x : Entry)
    (row : List (Segment α)) : Prop where
  lines : metrics.wrap x.name p.nameColumnWidth .gothic p.fontSize =
    .ok (row.flatMap (·.lines))
  lines_ne_nil : ∀ s ∈ row, s.lines ≠ []
  text_of_single : ∀ s, row = [s] → s.text = x.name
  text_of_many : 1 < row.length → ∀ s ∈ row, s.text = Text.unlines s.lines
  figures : ∃ first rest f, row = first :: rest ∧ first.figures = some f ∧ x.Shows f ∧
    ∀ s ∈ rest, s.figures = none

omit [Coordinate α] in
/-- Where wrapped lines are kept, the text of a row segment has the lines of the segment. -/
theorem IsRow.wrap_text {metrics : Metrics α} (keeps : metrics.KeepsLines) {p : LayoutParams α}
    {x : Entry} {row : List (Segment α)} (h : IsRow metrics p x row) :
    ∀ s ∈ row, metrics.wrap s.text p.nameColumnWidth .gothic p.fontSize = .ok s.lines := by
  intro s hs
  obtain hmany | hsingle := Nat.lt_or_ge 1 row.length
  · rw [h.text_of_many hmany s hs]
    exact keeps h.lines (fun l hl => List.mem_flatMap.2 ⟨s, hs, hl⟩) (h.lines_ne_nil s hs)
  · obtain ⟨s', rfl⟩ :=
      List.length_eq_one_iff.1 (Nat.le_antisymm hsingle (List.length_pos_of_mem hs))
    obtain rfl := List.mem_singleton.1 hs
    rw [h.text_of_single s rfl, h.lines, List.flatMap_singleton]

theorem nextSegment_lines_ne_nil {p : LayoutParams α} {x : Entry} {lineHeight y : α}
    {lines : List String} {isFirst : Bool} {count : Int} {figures : Option Figures}
    (left : lines ≠ []) :
    (nextSegment p x lineHeight lines y isFirst count figures).lines ≠ [] :=
  take_capacity_ne_nil left count

theorem RowRun.flatMap_lines {p : LayoutParams α} {x : Entry} {lineHeight : α}
    {lines : List String} {c c' : Cursor α} {fresh isFirst : Bool} {bs : List (Block α)}
    (run : RowRun p x lineHeight lines c fresh isFirst bs c') :
    (segments bs).flatMap (·.lines) = lines := by
  induction run with
  | done => rfl
  | newPage _ _ _ ih => exact ih
  | segment _ _ _ _ _ ih =>
    rw [segments_cons_segment, List.flatMap_cons, ih]
    exact List.take_append_drop ..

theorem RowRun.lines_ne_nil {p : LayoutParams α} {x : Entry} {lineHeight : α}
    {lines : List String} {c c' : Cursor α} {fresh isFirst : Bool} {bs : List (Block α)}
    (run : RowRun p x lineHeight lines c fresh isFirst bs c') :
    ∀ s ∈ segments bs, s.lines ≠ [] := by
  induction run with
  | done => simp
  | newPage _ _ _ ih => exact ih
  | segment left _ _ _ _ ih =>
    rw [segments_cons_segment, List.forall_mem_cons]
    exact ⟨nextSegment_lines_ne_nil left, ih⟩

/-- Segments after the first show their own lines and no figures. -/
theorem RowRun.of_not_isFirst {p : LayoutParams α} {x : Entry} {lineHeight : α}
    {lines : List String} {c c' : Cursor α} {fresh : Bool} {bs : List (Block α)}
    (run : RowRun p x lineHeight lines c fresh false bs c') :
    ∀ s ∈ segments bs, s.text = Text.unlines s.lines ∧ s.figures = none := by
  generalize hfirst : false = isFirst at run
  induction run with
  | done => simp
  | newPage _ _ _ ih => exact ih hfirst
  | segment _ _ _ shown _ ih =>
    subst hfirst
    obtain rfl : none = _ := Except.ok.inj shown
    rw [segments_cons_segment, List.forall_mem_cons]
    exact ⟨⟨rfl, rfl⟩, ih rfl⟩

/-- The first segment shows the figures, and the name itself if it is the only one. -/
theorem RowRun.exists_first {p : LayoutParams α} {x : Entry} {lineHeight : α}
    {lines : List String} {c c' : Cursor α} {fresh : Bool} {bs : List (Block α)}
    (run : RowRun p x lineHeight lines c fresh true bs c') (left : lines ≠ []) :
    ∃ first rest f, segments bs = first :: rest ∧ first.figures = some f ∧ x.figures = .ok f ∧
      first.text = (if rest = [] then x.name else Text.unlines first.lines) ∧
      ∀ s ∈ rest, s.text = Text.unlines s.lines ∧ s.figures = none := by
  generalize hfirst : true = isFirst at run
  induction run with
  | done => exact absurd rfl left
  | newPage _ _ _ ih => exact ih left hfirst
  | @segment lines c _ _ count figures bs c' _ _ _ shown run _ =>
    subst hfirst
    obtain ⟨f, hf, rfl⟩ := map_eq_ok.1 shown
    refine ⟨_, segments bs, f, rfl, rfl, hf, ?_, run.of_not_isFirst⟩
    -- no line is left below the segment exactly if no segment follows it
    have hrest : segments bs = [] ↔ lines.drop (capacity count) = [] := by
      rw [← run.flatMap_lines, List.flatMap_eq_nil_iff]
      refine ⟨fun h => by simp [h], fun h => ?_⟩
      exact List.eq_nil_iff_forall_not_mem.2 fun s hs => run.lines_ne_nil s hs (h s hs)
    simp [nextSegment, hrest]

theorem RowRun.isRow {metrics : Metrics α} {p : LayoutParams α} {x : Entry} {lineHeight : α}
    {lines : List String} {c c' : Cursor α} {fresh : Bool} {bs : List (Block α)}
    (wrapped : metrics.wrap x.name p.nameColumnWidth .gothic p.fontSize = .ok lines)
    (left : lines ≠ []) (run : RowRun p x lineHeight lines c fresh true bs c') :
    IsRow metrics p x (segments bs) := by
  obtain ⟨first, rest, f, hsegments, hfigures, hf, htext, hrest⟩ := run.exists_first left
  constructor
  case lines => rw [wrapped, run.flatMap_lines]
  case lines_ne_nil => exact run.lines_ne_nil
  case text_of_single =>
    intro s hs
    obtain ⟨rfl, rfl⟩ := List.cons.inj (hsegments.symm.trans hs)
    simpa using htext
  case text_of_many =>
    intro hlength
    rw [hsegments, List.forall_mem_cons]
    have : rest ≠ [] := by
      rintro rfl
      simp [hsegments] at hlength
    exact ⟨by simpa [this] using htext, fun s hs => (hrest s hs).1⟩
  case figures =>
    exact ⟨first, rest, f, hsegments, hfigures, Entry.shows_of_figures hf,
      fun s hs => (hrest s hs).2⟩

theorem TableRun.exists_rows {metrics : Metrics α} (canvas : metrics.IsCanvas)
    {p : LayoutParams α} {xs : List Entry} {c c' : Cursor α} {fresh : Bool} {bs : List (Block α)}
    (run : TableRun metrics p xs c fresh bs c') :
    ∃ rows, segments bs = rows.flatten ∧ List.Forall₂ (IsRow metrics p) xs rows := by
  induction run with
  | done => exact ⟨[], rfl, .nil⟩
  | @row x xs c fresh lines lineHeight bs c₁ bs' c₂ wrapped _ row _ ih =>
    obtain ⟨rows, hrows, hall⟩ := ih
    refine ⟨segments bs :: rows, by simp [hrows], .cons ?_ hall⟩
    exact row.isRow wrapped (canvas.wrap_ne_nil wrapped)

/-- The row segments of a document are divided into the rows of its entries. -/
theorem DocumentRun.exists_rows {metrics : Metrics α} (canvas : metrics.IsCanvas)
    {p : LayoutParams α} {doc : Document} {bs : List (Block α)} {c : Cursor α}
    (run : DocumentRun metrics p doc bs c) :
    ∃ rows, segments bs = rows.flatten ∧ List.Forall₂ (IsRow metrics p) doc.entries rows := by
  obtain ⟨_, _, _, _, _, _, -, entries, hsegments⟩ := run.exists_entries
  obtain ⟨rows, hrows, hall⟩ := entries.exists_rows canvas
  exact ⟨rows, hsegments.trans hrows, hall⟩

end Layout

end Billing
