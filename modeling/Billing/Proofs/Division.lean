import Billing.Proofs.Placement

/-!
# Which rows are divided

In exact arithmetic a row is one segment if its full height is no more than the room below the
header band of a later page: it moves to such a page if it does not fit where it stands. The first
row never moves. It is one segment exactly if it fits below the first header band, so one that would
fit on a page of its own is divided where that band stands lower down on the first page.

* `RowRun.exists_single_iff`, `RowRun.exists_single_of_le`: the rows that are one segment.
* `undivided_of_render`: the rows of a rendered document.
* `exists_divided_tallSpecimen`: a first row that is divided although a page has room for it.
-/

namespace Billing.Layout

open Coordinate

variable {p : LayoutParams Rat}

/-- The height of a row with all lines of its segments. -/
def fullHeight (p : LayoutParams Rat) (row : List (Segment Rat)) : Rat :=
  max p.minRowHeight ((row.flatMap (·.lines)).length * p.lineHeight + p.rowPadding)

/-- Which rows from a height on are one segment: the first exactly if it fits there, and any other
one if it fits below the header band of a later page. -/
structure IsUndivided (p : LayoutParams Rat) (y : Rat) (rows : List (List (Segment Rat))) :
    Prop where
  first : ∀ row ∈ rows.head?, (∃ s, row = [s]) ↔ fullHeight p row ≤ p.rowBottom - y
  later : ∀ row ∈ rows.tail,
    fullHeight p row ≤ p.rowBottom - p.pageTop - p.headerHeight → ∃ s, row = [s]

/-! ## A row -/

section Row

variable {x : Entry} {lines : List String} {c c' : Cursor Rat} {fresh isFirst : Bool}
  {bs : List (Block Rat)}

theorem RowRun.fullHeight_eq (run : RowRun p x p.lineHeight lines c fresh isFirst bs c') :
    fullHeight p (segments bs) = p.rowHeight (ofCount lines.length * p.lineHeight) := by
  rw [fullHeight, run.flatMap_lines, p.rowHeight_rat, ofCount_rat]

/-- A row that fits below the place is one segment. -/
theorem RowRun.exists_single (roomy : p.IsRoomy)
    (run : RowRun p x p.lineHeight lines c fresh isFirst bs c') (left : lines ≠ [])
    (fits : fullHeight p (segments bs) ≤ p.rowBottom - c.y) : ∃ s, segments bs = [s] := by
  rw [run.fullHeight_eq] at fits
  cases run with
  | done => exact absurd rfl left
  | newPage _ tooHigh _ =>
    rw [lt_rat, decide_eq_true_eq] at tooHigh
    exact absurd fits tooHigh.not_ge
  | @segment _ _ _ _ count _ _ _ _ _ room _ rest =>
    rw [floorQuotient_rat roomy.lineHeight_pos.ne'] at room
    obtain rfl := Except.ok.inj room
    rw [p.rowHeight_rat, ofCount_rat] at fits
    -- all lines are taken at once
    have hcount : (lines.length : Int) ≤ ⌊(p.rowBottom - c.y - p.rowPadding) / p.lineHeight⌋ := by
      rw [Int.le_floor, le_div_iff₀ roomy.lineHeight_pos, Int.cast_natCast]
      linarith only [(le_max_right _ _).trans fits]
    have hdrop :
        lines.drop (capacity ⌊(p.rowBottom - c.y - p.rowPadding) / p.lineHeight⌋) = [] := by
      rw [List.drop_eq_nil_iff]
      unfold capacity
      omega
    rw [hdrop] at rest
    cases rest with
    | done => exact ⟨_, rfl⟩
    | newPage left => exact absurd rfl left
    | segment left => exact absurd rfl left

/-- A row right below a header band is one segment exactly if it fits there. -/
theorem RowRun.exists_single_iff (roomy : p.IsRoomy)
    (run : RowRun p x p.lineHeight lines c true isFirst bs c') (left : lines ≠ [])
    (space : c.y + p.minRowHeight ≤ p.rowBottom) :
    (∃ s, segments bs = [s]) ↔ fullHeight p (segments bs) ≤ p.rowBottom - c.y := by
  refine ⟨fun ⟨s, hs⟩ => ?_, run.exists_single roomy left⟩
  obtain ⟨height_eq, bottom_le⟩ := run.fits roomy (fun _ => space) s (by simp [hs])
  have hy : s.y = c.y := by
    cases run with
    | done => exact absurd rfl left
    | segment => exact congrArg Segment.y (List.cons.inj hs).1.symm
  rw [fullHeight, hs, List.flatMap_singleton, ← height_eq]
  linarith only [bottom_le, hy]

/-- A row below other rows is one segment if a later page has room for it. -/
theorem RowRun.exists_single_of_le (roomy : p.IsRoomy)
    (run : RowRun p x p.lineHeight lines c false isFirst bs c') (left : lines ≠ [])
    (fits : fullHeight p (segments bs) ≤ p.rowBottom - p.pageTop - p.headerHeight) :
    ∃ s, segments bs = [s] := by
  have here := run.exists_single roomy left
  rw [run.fullHeight_eq] at here
  cases run with
  | done => exact absurd rfl left
  | newPage _ _ rest =>
    have single := rest.exists_single roomy left
    rw [sub_sub] at fits
    exact single fits
  | segment _ high =>
    refine here ?_
    simpa using high

end Row

/-! ## The rows of a document -/

theorem TableRun.exists_later_rows (roomy : p.IsRoomy) {metrics : Metrics Rat}
    (canvas : metrics.IsCanvas) {xs : List Entry} {c c' : Cursor Rat} {bs : List (Block Rat)}
    (run : TableRun metrics p xs c false bs c') :
    ∃ rows, segments bs = rows.flatten ∧ List.Forall₂ (IsRow metrics p) xs rows ∧
      ∀ row ∈ rows, fullHeight p row ≤ p.rowBottom - p.pageTop - p.headerHeight →
        ∃ s, row = [s] := by
  generalize hfresh : false = fresh at run
  induction run with
  | done => exact ⟨[], rfl, .nil, by simp⟩
  | @row x xs c fresh lines lineHeight bs c₁ bs' c₂ wrapped measured row _ ih =>
    subst hfresh
    obtain ⟨rows, hrows, hall, hlater⟩ := ih rfl
    rw [canvas.textHeight_headD wrapped, p.linesHeight_one] at measured
    obtain rfl := Except.ok.inj measured
    have left := canvas.wrap_ne_nil wrapped
    refine ⟨segments bs :: rows, by simp [hrows], .cons (row.isRow wrapped left) hall, ?_⟩
    exact List.forall_mem_cons.2 ⟨row.exists_single_of_le roomy left, hlater⟩

theorem TableRun.exists_rows_isUndivided (roomy : p.IsRoomy) {metrics : Metrics Rat}
    (canvas : metrics.IsCanvas) {xs : List Entry} {c c' : Cursor Rat} {bs : List (Block Rat)}
    (run : TableRun metrics p xs c true bs c') (space : c.y + p.minRowHeight ≤ p.rowBottom) :
    ∃ rows, segments bs = rows.flatten ∧ List.Forall₂ (IsRow metrics p) xs rows ∧
      IsUndivided p c.y rows := by
  cases run with
  | done => exact ⟨[], rfl, .nil, by simp, by simp⟩
  | @row x xs _ _ lines lineHeight bs c₁ bs' _ wrapped measured row rest =>
    obtain ⟨rows, hrows, hall, hlater⟩ := rest.exists_later_rows roomy canvas
    rw [canvas.textHeight_headD wrapped, p.linesHeight_one] at measured
    obtain rfl := Except.ok.inj measured
    have left := canvas.wrap_ne_nil wrapped
    refine ⟨segments bs :: rows, by simp [hrows], .cons (row.isRow wrapped left) hall, ?_, hlater⟩
    rintro _ ⟨⟩
    exact row.exists_single_iff roomy left space

theorem DocumentRun.exists_rows_isUndivided (roomy : p.IsRoomy) {metrics : Metrics Rat}
    (canvas : metrics.IsCanvas) {doc : Document} {bs : List (Block Rat)} {c : Cursor Rat}
    (run : DocumentRun metrics p doc bs c) :
    ∃ header start bottom band top rest rows, bs = header ++ band ++ rest ∧
      HeaderRun metrics p doc header start bottom ∧ TableStart p bottom start band top ∧
      segments bs = rows.flatten ∧ List.Forall₂ (IsRow metrics p) doc.entries rows ∧
      IsUndivided p top.y rows := by
  obtain ⟨headers, table, entries, ending⟩ := run
  rename_i header start bottom band top rows below closing
  obtain ⟨parts, hparts, hrows, undivided⟩ :=
    entries.exists_rows_isUndivided roomy canvas (table.space roomy)
  refine ⟨header, start, bottom, band, top, rows ++ closing, parts, List.append_assoc .., headers,
    table, ?_, hrows, undivided⟩
  rw [segments_document headers table rows ending, hparts]

/-- In exact arithmetic and on a grid, a document whose texts can be made is drawn. Its first row is
one segment exactly if it fits below the first header band; any other row is one segment if it fits
below the header band of a later page. -/
theorem undivided_of_render (roomy : p.IsRoomy) (pageWidth : Rat) (doc : Document) :
    (doc.IsPrintable → ∃ ms c, doc.render (.grid pageWidth) p = .ok (ms, c)) ∧
      ∀ ms c, doc.render (.grid pageWidth) p = .ok (ms, c) →
        ∃ header start bottom band top rest rows,
          DrawnAs (.grid pageWidth) p doc ms c (header ++ band ++ rest) ∧
          HeaderRun (.grid pageWidth) p doc header start bottom ∧
          TableStart p bottom start band top ∧
          segments (header ++ band ++ rest) = rows.flatten ∧
          List.Forall₂ (IsRow (.grid pageWidth) p) doc.entries rows ∧
          IsUndivided p top.y rows := by
  refine ⟨fun h => exists_render (.grid pageWidth) h roomy.fontSize_pos.ne'
    roomy.lineHeight_pos.ne', fun ms c h => ?_⟩
  obtain ⟨bs, rfl, run⟩ := exists_drawnAs h
  obtain ⟨header, start, bottom, band, top, rest, rows, rfl, headers, table, hsegments, hrows,
    undivided⟩ := run.exists_rows_isUndivided roomy (.grid pageWidth)
  exact ⟨header, start, bottom, band, top, rest, rows, ⟨rfl, run⟩, headers, table,
    hsegments, hrows, undivided⟩

theorem undivided_of_specimen :
    (.standard : LayoutParams Rat).IsRoomy ∧ specimen.IsPrintable ∧
      ∃ ms c, specimen.render (.grid 595) .standard = .ok (ms, c) ∧
        ∃ header start bottom band top rest rows,
          DrawnAs (.grid (595 : Rat)) .standard specimen ms c (header ++ band ++ rest) ∧
            HeaderRun (.grid 595) .standard specimen header start bottom ∧
            TableStart .standard bottom start band top ∧
            segments (header ++ band ++ rest) = rows.flatten ∧
            List.Forall₂ (IsRow (.grid 595) .standard) specimen.entries rows ∧
            IsUndivided .standard top.y rows := by
  have undivided := undivided_of_render LayoutParams.standard_isRoomy 595 specimen
  obtain ⟨ms, c, h⟩ := undivided.1 specimen_isPrintable
  exact ⟨LayoutParams.standard_isRoomy, specimen_isPrintable, ms, c, h, undivided.2 ms c h⟩

/-! ## A first row that is divided -/

/-- A name of 28 lines. -/
def tallName : String := String.ofList (List.replicate 700 '長')

/-- An entry with this name. -/
def tallEntry : Entry :=
  { name := tallName, quantityText := "2", quantity := .ofInt 2, unit := "", unitPrice := 150,
    amount := 300 }

/-- The specimen with this entry, for which there is room below the header band of a later page, but
not below that of the first. -/
def tallSpecimen : Document :=
  { specimen with
    entries := [tallEntry]
    subtotal := 300
    tax := 30
    grandTotal := 330 }

theorem exists_gridWrap_tallName : ∃ lines,
    gridWrap (List.replicate 700 '長') (some (250 : Rat)) 10 = .ok lines ∧ lines.length = 28 := by
  rw [← exceptMap_eq_ok]
  decide +kernel

theorem exists_wrap_tallName : ∃ lines, (Metrics.grid (595 : Rat)).wrap tallName
    (LayoutParams.standard : LayoutParams Rat).nameColumnWidth .gothic
    (LayoutParams.standard : LayoutParams Rat).fontSize = .ok lines ∧ lines.length = 28 := by
  obtain ⟨lines, hlines, hlength⟩ := exists_gridWrap_tallName
  have hlist : tallName.toList = List.replicate 700 '長' := String.toList_ofList
  rw [← hlist] at hlines
  refine ⟨lines.map String.ofList, exceptMap_eq_ok.2 ⟨lines, hlines, rfl⟩, ?_⟩
  rw [List.length_map, hlength]

theorem tallSpecimen_isPrintable : tallSpecimen.IsPrintable where
  amount := by decide +kernel
  unitPrice := by decide +kernel
  subtotal := by decide +kernel
  tax := by decide +kernel
  grandTotal := by decide +kernel
  issuer := specimen_isPrintable.issuer
  taxLabel := specimen_isPrintable.taxLabel

theorem HeaderRun.bottom_tallSpecimen {bs : List (Block Rat)} {start : Cursor Rat} {bottom : Rat}
    (run : HeaderRun (.grid 595) .standard tallSpecimen bs start bottom) : bottom = 1242 / 5 := by
  obtain ⟨htitle, hdate, hclient, hissuer⟩ := run
  obtain rfl := eq_of_map_snd htitle (by decide +kernel : _ = Except.ok (⟨1, 507 / 5⟩ : Cursor Rat))
  obtain rfl := eq_of_map_snd hdate (by decide +kernel : _ = Except.ok (⟨1, 567 / 5⟩ : Cursor Rat))
  obtain rfl := eq_of_map_snd hclient (by decide +kernel : _ = Except.ok (1242 / 5 : Rat))
  obtain rfl := eq_of_map_snd hissuer (by decide +kernel : _ = Except.ok (967 / 5 : Rat))
  norm_num

/-- The only row of the document would fit below the header band of a later page, and is divided. -/
theorem exists_divided_tallSpecimen :
    let p : LayoutParams Rat := .standard
    ∃ lines ms c, tallSpecimen.entries = [tallEntry] ∧
      (Metrics.grid 595).wrap tallEntry.name p.nameColumnWidth .gothic p.fontSize = .ok lines ∧
      max p.minRowHeight (lines.length * p.lineHeight + p.rowPadding) ≤
        p.rowBottom - p.pageTop - p.headerHeight ∧
      tallSpecimen.render (.grid 595) p = .ok (ms, c) ∧ 1 < ms.countP (·.isRowRule) := by
  have roomy := LayoutParams.standard_isRoomy
  obtain ⟨lines, wrapped, hlength⟩ := exists_wrap_tallName
  obtain ⟨ms, c, h⟩ := exists_render (.grid 595) tallSpecimen_isPrintable roomy.fontSize_pos.ne'
    roomy.lineHeight_pos.ne'
  refine ⟨lines, ms, c, rfl, wrapped, ?_, h, ?_⟩
  · rw [hlength]
    norm_num [LayoutParams.standard, LayoutParams.lineHeight]
  obtain ⟨bs, rfl, run⟩ := exists_drawnAs h
  obtain ⟨header, start, bottom, band, top, rest, rows, -, headers, table, hsegments, hrows,
    undivided⟩ := run.exists_rows_isUndivided roomy (.grid 595)
  obtain ⟨row, _, hrow, hnil, rfl⟩ := List.forall₂_cons_left_iff.1 hrows
  obtain rfl := List.forall₂_nil_left_iff.1 hnil
  have hheight : fullHeight .standard row = 408 := by
    rw [fullHeight, ← Except.ok.inj (wrapped.symm.trans hrow.lines), hlength]
    norm_num [LayoutParams.standard, LayoutParams.lineHeight]
  have hplace : top.y = 1542 / 5 := by
    obtain rfl := headers.bottom_tallSpecimen
    cases table with
    | here => norm_num [LayoutParams.standard, LayoutParams.tableTop, Cursor.advance]
    | newPage tooLow =>
      norm_num [LayoutParams.standard, LayoutParams.tableTop, Cursor.fits] at tooLow
  have hmany : ¬ ∃ s, row = [s] := by
    rw [undivided.first row rfl, hheight, hplace]
    norm_num [LayoutParams.standard]
  rw [countP_isRowRule_drawing run.isDistinct, hsegments, List.flatten_singleton]
  obtain ⟨first, others, _, rfl, -⟩ := hrow.figures
  cases others with
  | nil => exact absurd ⟨first, rfl⟩ hmany
  | cons => simp

end Billing.Layout
