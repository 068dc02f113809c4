import Billing.Proofs.Drawing.Passes
import Billing.Proofs.Pagination
import Billing.Proofs.Printing

/-!
# How many pages a document takes

Whatever the measures, each loop of a drawing ends, and only a division of lengths can stop the
drawing of a document whose texts can be made. A page is started at most once before the table, once
before the closing, and once for each line of a name or of the remarks; none is started before the
first line of the first entry. A document without entries may take one page more for that.

* `stopsBy_division_of_render`: what stops a printable document.
* `RowRun.countP_newPage`, `TableRun.exists_countP_newPage`, `BoxRun.countP_newPage`: the pages that
  each loop starts.
* `ends_of_render`: every drawing ends, within a number of pages.
-/

namespace Billing

/-- A fault of dividing a length by another one. -/
def IsDivisionFault (α : Type) [Coordinate α] (cause : Fault) : Prop :=
  ∃ x y : α, Coordinate.floorQuotient x y = .error cause

variable {α : Type} [Coordinate α]

theorem stopsBy_floorQuotient (x y : α) :
    StopsBy (IsDivisionFault α) (Coordinate.floorQuotient x y) :=
  fun _ h => ⟨x, y, h⟩

theorem StopsBy.mapM {P : Fault → Prop} {β γ : Type} {f : β → Except Fault γ} {xs : List β}
    (h : ∀ x ∈ xs, StopsBy P (f x)) : StopsBy P (xs.mapM f) := by
  intro cause hcause
  obtain ⟨x, hx, hfail⟩ := exists_of_mapM_eq_error hcause
  exact h x hx cause hfail

/-- What only an integer of the document could stop succeeds if they can all be written. -/
theorem StopsBy.exists_of_isWritable {β : Type} {doc : Document} {x : Except Fault β}
    (h : StopsBy doc.Exceeds x) (writable : doc.IsWritable) : ∃ b, x = .ok b :=
  h.exists_ok fun _ hcause => hcause.2 writable

/-! ## What stops a drawing -/

theorem stopsBy_gridPieces (width : Option α) (size : α) (paragraph : List Char) :
    StopsBy (IsDivisionFault α) (gridPieces width size paragraph) := by
  unfold gridPieces
  cases width with
  | none => exact .of_ok rfl
  | some width =>
    dsimp only
    split
    · exact .of_ok rfl
    · exact (stopsBy_floorQuotient width size).bind fun _ _ => .of_ok rfl

theorem stopsBy_gridWrap (s : List Char) (width : Option α) (size : α) :
    StopsBy (IsDivisionFault α) (gridWrap s width size) := by
  rw [gridWrap_eq]
  exact (StopsBy.mapM fun paragraph _ => stopsBy_gridPieces width size paragraph).bind
    fun _ _ => .of_ok rfl

namespace Metrics.IsCanvas

variable {metrics : Metrics α}

theorem stopsBy_wrap (canvas : metrics.IsCanvas) (s : String) (width : Option α)
    (typeface : Typeface) (size : α) :
    StopsBy (IsDivisionFault α) (metrics.wrap s width typeface size) := by
  cases canvas with
  | grid => exact (stopsBy_gridWrap _ _ _).map _
  | ofMeasure => exact .of_ok rfl

theorem stopsBy_textHeight (canvas : metrics.IsCanvas) (s : String) (width : Option α)
    (typeface : Typeface) (size lineGap : α) :
    StopsBy (IsDivisionFault α) (metrics.textHeight s width typeface size lineGap) := by
  cases canvas with
  | grid => exact (stopsBy_gridWrap _ _ _).map _
  | ofMeasure => exact .of_ok rfl

end Metrics.IsCanvas

namespace Layout

open Coordinate

variable {metrics : Metrics α} {p : LayoutParams α} {doc : Document}

theorem stopsBy_division_of_drawClient (canvas : metrics.IsCanvas) (writable : doc.IsWritable)
    (c : Cursor α) : StopsBy (IsDivisionFault α) (drawClient metrics doc c) := by
  have hstops : StopsBy doc.Exceeds (Number.groupedText doc.grandTotal) :=
    stopsBy_groupedText fun h => h.grandTotal
  obtain ⟨total, htotal⟩ := hstops.exists_of_isWritable writable
  exact (canvas.stopsBy_textHeight _ _ _ _ _).bind fun _ _ =>
    (StopsBy.of_ok htotal).bind fun _ _ => .of_ok rfl

theorem stopsBy_division_of_drawIssuerLines (canvas : metrics.IsCanvas) (x width : α)
    (lines : List String) (y : α) :
    StopsBy (IsDivisionFault α) (drawIssuerLines metrics x width lines y) := by
  induction lines generalizing y with
  | nil => exact .of_ok rfl
  | cons s lines ih =>
    exact (canvas.stopsBy_textHeight _ _ _ _ _).bind fun _ _ => (ih _).bind fun _ _ => .of_ok rfl

theorem stopsBy_division_of_drawIssuer (canvas : metrics.IsCanvas) (h : doc.issuer.IsPrintable)
    (c : Cursor α) : StopsBy (IsDivisionFault α) (drawIssuer metrics p doc c) := by
  obtain ⟨name, hname⟩ := h.companyName
  obtain ⟨lines, hlines⟩ := h.particulars
  simp only [drawIssuer, hname]
  exact (StopsBy.of_ok rfl).bind fun _ _ => (StopsBy.of_ok hlines).bind fun _ _ =>
    (stopsBy_division_of_drawIssuerLines canvas _ _ _ _).bind fun _ _ => .of_ok rfl

theorem stopsBy_division_of_drawSegments (writable : doc.IsWritable) {x : Entry}
    (hx : x ∈ doc.entries) (lineHeight : α) (lines : List String) (c : Cursor α)
    (fresh isFirst : Bool) :
    StopsBy (IsDivisionFault α) (drawSegments p x lineHeight lines c fresh isFirst) := by
  induction lines, c, fresh, isFirst using drawSegments.induct p lineHeight with
  | case1 c fresh isFirst =>
    rw [drawSegments, dif_pos rfl]
    exact .of_ok rfl
  | case2 lines c fresh isFirst left tooHigh broken c₁ hbroken =>
    rename_i ih
    simp only [tooHigh, dite_eq_ite] at hbroken
    rw [drawSegments, dif_neg left]
    simp only [hbroken]
    refine (stopsBy_floorQuotient _ _).bind fun count _ => ?_
    obtain ⟨segment, hsegment⟩ :=
      (stopsBy_segmentMarks (p := p) hx _ _ _ _).exists_of_isWritable writable
    exact (StopsBy.of_ok hsegment).bind fun _ _ => (ih count).bind fun _ _ => .of_ok rfl

theorem stopsBy_division_of_drawRows (canvas : metrics.IsCanvas) (writable : doc.IsWritable)
    {xs : List Entry} (hxs : ∀ x ∈ xs, x ∈ doc.entries) (c : Cursor α) (fresh : Bool) :
    StopsBy (IsDivisionFault α) (drawRows metrics p xs c fresh) := by
  induction xs generalizing c fresh with
  | nil => exact .of_ok rfl
  | cons x xs ih =>
    obtain ⟨hx, hxs⟩ := List.forall_mem_cons.1 hxs
    have hrow : StopsBy (IsDivisionFault α) (drawRow metrics p x c fresh) :=
      (canvas.stopsBy_wrap _ _ _ _).bind fun _ _ =>
        (canvas.stopsBy_textHeight _ _ _ _ _).bind fun _ _ =>
          stopsBy_division_of_drawSegments writable hx _ _ _ _ _
    exact hrow.bind fun _ _ => (ih hxs _ _).bind fun _ _ => .of_ok rfl

theorem stopsBy_division_of_drawBoxes (style : TextStyle α) (whole : String) (lineHeight : α)
    (lines : List String) (c : Cursor α) (isFirst : Bool) :
    StopsBy (IsDivisionFault α) (drawBoxes p style whole lineHeight lines c isFirst) := by
  induction lines, c, isFirst using drawBoxes.induct (α := α) with
  | case1 c isFirst =>
    rw [drawBoxes, dif_pos rfl]
    exact .of_ok rfl
  | case2 lines c isFirst left ih =>
    rw [drawBoxes, dif_neg left]
    exact (stopsBy_floorQuotient _ _).bind fun _ _ => (stopsBy_floorQuotient _ _).bind
      fun count _ => (ih count _).bind fun _ _ => .of_ok rfl

theorem stopsBy_division_of_drawClosing (canvas : metrics.IsCanvas) (writable : doc.IsWritable)
    (label : ∃ s, taxLabel doc.taxRate = .ok s) (c : Cursor α) :
    StopsBy (IsDivisionFault α) (drawClosing metrics p doc c) := by
  refine StopsBy.bind ?_ fun _ _ => StopsBy.bind ?_ fun _ _ => .of_ok rfl
  · obtain ⟨_, h⟩ := (stopsBy_drawSummary (p := p) label _).exists_of_isWritable writable
    exact .of_ok h
  · exact (canvas.stopsBy_wrap _ _ _ _).bind fun _ _ =>
      (canvas.stopsBy_textHeight _ _ _ _ _).bind fun _ _ =>
        stopsBy_division_of_drawBoxes _ _ _ _ _ _

/-- Only a division of lengths stops the drawing of a document whose texts can be made. -/
theorem stopsBy_division_of_render (canvas : metrics.IsCanvas) (p : LayoutParams α)
    (h : doc.IsPrintable) : StopsBy (IsDivisionFault α) (doc.render metrics p) := by
  obtain ⟨_, htitle⟩ := exists_drawTitle canvas doc ⟨1, pt 40⟩
  refine (StopsBy.of_ok htitle).bind fun title _ => ?_
  obtain ⟨_, hdate⟩ := exists_drawDate (p := p) canvas doc title.2
  refine (StopsBy.of_ok hdate).bind fun date _ => ?_
  refine (stopsBy_division_of_drawClient canvas h.toIsWritable _).bind fun client _ => ?_
  refine (stopsBy_division_of_drawIssuer canvas h.issuer _).bind fun issuer _ => ?_
  refine (stopsBy_division_of_drawRows canvas h.toIsWritable (fun _ hx => hx) _ _).bind
    fun rows _ => ?_
  exact (stopsBy_division_of_drawClosing canvas h.toIsWritable h.taxLabel _).bind
    fun _ _ => .of_ok rfl

/-! ## The pages that are started -/

/-- The rows of an entry start at most a page for each line, and none for the first line right below
a header band. -/
theorem RowRun.countP_newPage {x : Entry} {lineHeight : α} {lines : List String}
    {c c' : Cursor α} {fresh isFirst : Bool} {bs : List (Block α)}
    (run : RowRun p x lineHeight lines c fresh isFirst bs c') :
    bs.countP (·.isNewPage) ≤ lines.length ∧
      (fresh = true → lines ≠ [] → bs.countP (·.isNewPage) < lines.length) := by
  induction run with
  | done => simp
  | @newPage lines c isFirst bs c' left _ _ ih =>
    have := ih.2 rfl left
    rw [List.countP_cons_of_pos rfl, List.countP_cons_of_neg (by simp [Block.isNewPage])]
    exact ⟨by omega, by simp⟩
  | @segment lines c fresh isFirst count figures bs c' left _ _ _ _ ih =>
    rw [List.countP_cons_of_neg (by simp [Block.isNewPage])]
    have := length_drop_capacity_lt left count
    exact ⟨by omega, fun _ _ => by omega⟩

/-- The rows of entries start at most a page for each line of their names, and none for the first
line right below a header band. -/
theorem TableRun.exists_countP_newPage (canvas : metrics.IsCanvas) {xs : List Entry}
    {c c' : Cursor α} {fresh : Bool} {bs : List (Block α)}
    (run : TableRun metrics p xs c fresh bs c') :
    ∃ names, xs.mapM (fun x => metrics.wrap x.name p.nameColumnWidth .gothic p.fontSize) =
        .ok names ∧
      bs.countP (·.isNewPage) ≤ (names.map (·.length)).sum ∧
      (fresh = true → xs ≠ [] → bs.countP (·.isNewPage) < (names.map (·.length)).sum) := by
  induction run with
  | done => exact ⟨[], rfl, by simp, by simp⟩
  | @row x xs c fresh lines lineHeight bs c₁ bs' c₂ wrapped _ row _ ih =>
    obtain ⟨names, hnames, hle, -⟩ := ih
    obtain ⟨hrow, hfresh⟩ := row.countP_newPage
    refine ⟨lines :: names, ?_, ?_, fun h _ => ?_⟩
    · rw [mapM_eq_ok] at hnames ⊢
      exact .cons wrapped hnames
    · rw [List.countP_append, List.map_cons, List.sum_cons]
      omega
    · have := hfresh h (canvas.wrap_ne_nil wrapped)
      rw [List.countP_append, List.map_cons, List.sum_cons]
      omega

/-- The boxes of remarks start at most a page for each line, and none for the first line at the top
of a page. -/
theorem BoxRun.countP_newPage [StrictCoordinate α] {style : TextStyle α} {whole : String}
    {lineHeight : α} {lines : List String} {c c' : Cursor α} {isFirst : Bool}
    {bs : List (Block α)} (run : BoxRun p style whole lineHeight lines c isFirst bs c') :
    bs.countP (·.isNewPage) ≤ lines.length ∧
      (lt p.pageTop c.y = false → lines ≠ [] → bs.countP (·.isNewPage) < lines.length) := by
  induction run with
  | done => simp
  | @last lines c isFirst bs c₁ count left start _ _ =>
    have := List.length_pos_iff.2 left
    rw [List.countP_append, List.countP_singleton, if_neg (by simp [Block.isNewPage])]
    cases start with
    | here => exact ⟨by simp, fun _ _ => by simpa⟩
    | newPage _ _ lower => simp [Block.isNewPage, lower, Nat.one_le_iff_ne_zero, left]
  | @more lines c isFirst bs c₁ count bs' c' left start _ nonempty _ ih =>
    have hrest := ih.2 (StrictCoordinate.lt_self _) nonempty
    have := length_drop_capacity_lt left count
    rw [List.countP_append, List.countP_cons_of_neg (by simp [Block.isNewPage]),
      List.countP_cons_of_pos rfl]
    cases start with
    | here =>
      rw [List.countP_nil]
      exact ⟨by omega, fun _ _ => by omega⟩
    | newPage _ _ lower =>
      rw [List.countP_cons_of_pos rfl, List.countP_nil]
      refine ⟨by omega, ?_⟩
      simp [lower]

theorem TableStart.countP_newPage {bottom : α} {c c' : Cursor α} {bs : List (Block α)}
    (start : TableStart p bottom c bs c') : bs.countP (·.isNewPage) ≤ 1 := by
  cases start <;> simp [Block.isNewPage]

/-- The closing starts at most a page for its summary, and one for each line of the remarks. -/
theorem ClosingRun.exists_countP_newPage [StrictCoordinate α] {c c' : Cursor α}
    {bs : List (Block α)} (run : ClosingRun metrics p doc c bs c') :
    ∃ remarks, metrics.wrap doc.remarks (some (p.contentWidth - pt 20)) .gothic
        (remarksStyle (α := α) doc).size = .ok remarks ∧
      bs.countP (·.isNewPage) ≤ 1 + remarks.length := by
  obtain ⟨start, -, -, wrapped, -, boxes⟩ := run
  refine ⟨_, wrapped, ?_⟩
  have := boxes.countP_newPage.1
  rw [List.countP_append, List.countP_cons_of_neg (by simp [Block.isNewPage])]
  cases start with
  | here =>
    rw [List.countP_nil]
    omega
  | newPage =>
    rw [List.countP_cons_of_pos rfl, List.countP_nil]
    omega

theorem DocumentRun.exists_pageCount_le [StrictCoordinate α] (canvas : metrics.IsCanvas)
    {bs : List (Block α)} {c : Cursor α} (run : DocumentRun metrics p doc bs c) :
    ∃ names remarks,
      doc.entries.mapM (fun x => metrics.wrap x.name p.nameColumnWidth .gothic p.fontSize) =
        .ok names ∧
      metrics.wrap doc.remarks (some (p.contentWidth - pt 20)) .gothic
        (remarksStyle (α := α) doc).size = .ok remarks ∧
      Mark.pageCount (drawing p bs) ≤ 3 + (names.map (·.length)).sum + remarks.length ∧
      (doc.entries ≠ [] →
        Mark.pageCount (drawing p bs) ≤ 2 + (names.map (·.length)).sum + remarks.length) := by
  rw [pageCount_drawing run.isDistinct]
  obtain ⟨headers, table, entries, ending⟩ := run
  obtain ⟨names, hnames, hrows, hfirst⟩ := entries.exists_countP_newPage canvas
  obtain ⟨remarks, hremarks, hclosing⟩ := ending.exists_countP_newPage
  rename_i header _ _ _ _ _ _ _
  have hheader : header.countP (·.isNewPage) = 0 :=
    List.countP_eq_zero.2 fun b hb => by simpa using (headers.isPlain b hb).2.2
  have hstart := table.countP_newPage
  refine ⟨names, remarks, hnames, hremarks, ?_, fun nonempty => ?_⟩
  · simp only [List.countP_append]
    omega
  · have := hfirst rfl nonempty
    simp only [List.countP_append]
    omega

/-! ## Every drawing ends -/

/-- The loops over the lines of a name and of the remarks end from every state, within two passes a
line; only a division of lengths stops the drawing of a document whose texts can be made; and what
is drawn for entries takes at most two pages and one for each line of a name or of the remarks. A
document without entries, of which there are no drafts, takes at most one more. -/
theorem ends_of_render [StrictCoordinate α] (canvas : metrics.IsCanvas) (p : LayoutParams α)
    (doc : Document) :
    (∀ x lineHeight, ∀ s : RowState α,
      (runPasses RowState.more (rowPass p x lineHeight) (2 * s.lines.length) s).map
        (·.map RowState.drawn) = some (rowOutcome p x lineHeight s)) ∧
    (∀ style whole lineHeight, ∀ s : BoxState α,
      (runPasses BoxState.more (boxPass p style whole lineHeight) (2 * s.lines.length) s).map
        (·.map BoxState.drawn) = some (boxOutcome p style whole lineHeight s)) ∧
    (doc.IsPrintable → StopsBy (IsDivisionFault α) (doc.render metrics p)) ∧
    ∀ ms c, doc.render metrics p = .ok (ms, c) →
      ∃ names remarks,
        doc.entries.mapM (fun x => metrics.wrap x.name p.nameColumnWidth .gothic p.fontSize) =
          .ok names ∧
        metrics.wrap doc.remarks (some (p.contentWidth - pt 20)) .gothic
          (remarksStyle (α := α) doc).size = .ok remarks ∧
        Mark.pageCount ms ≤ 3 + (names.map (·.length)).sum + remarks.length ∧
        (doc.entries ≠ [] →
          Mark.pageCount ms ≤ 2 + (names.map (·.length)).sum + remarks.length) ∧
        c.page = Mark.pageCount ms ∧
        ∀ canvas : Canvas α, canvas.pages = 1 →
          (canvas.drawAll ms).1.fault = none ∧ (canvas.drawAll ms).2.pages = Mark.pageCount ms := by
  refine ⟨fun _ _ => runPasses_row, fun _ _ _ => runPasses_box,
    stopsBy_division_of_render canvas p, fun ms c h => ?_⟩
  obtain ⟨bs, rfl, run⟩ := exists_drawnAs h
  obtain ⟨names, remarks, hnames, hremarks, hall, hsome⟩ := run.exists_pageCount_le canvas
  refine ⟨names, remarks, hnames, hremarks, hall, hsome, run.page_eq, fun canvas new => ?_⟩
  have hfault := canvas.fault_drawAll (isColoured_of_render h canvas.palette)
  refine ⟨hfault, ?_⟩
  rw [canvas.pages_drawAll hfault, new, Mark.pageCount, Nat.add_comm]

/-- Measures that leave no room on any page. -/
def crampedParams : LayoutParams Rat :=
  { LayoutParams.standard with rowBottom := 0, blockBottom := 0 }

/-- With these measures the specimen takes as many pages as it can. -/
theorem ends_of_crampedSpecimen :
    (∀ x lineHeight, ∀ s : RowState Rat,
      (runPasses RowState.more (rowPass crampedParams x lineHeight) (2 * s.lines.length) s).map
        (·.map RowState.drawn) = some (rowOutcome crampedParams x lineHeight s)) ∧
    (∀ style whole lineHeight, ∀ s : BoxState Rat,
      (runPasses BoxState.more (boxPass crampedParams style whole lineHeight)
        (2 * s.lines.length) s).map (·.map BoxState.drawn) =
          some (boxOutcome crampedParams style whole lineHeight s)) ∧
    specimen.IsPrintable ∧
    StopsBy (IsDivisionFault Rat) (specimen.render (.grid 595) crampedParams) ∧
    specimen.entries ≠ [] ∧
    ∃ ms c, specimen.render (.grid 595) crampedParams = .ok (ms, c) ∧
      ∃ names remarks,
        specimen.entries.mapM (fun x => (Metrics.grid 595).wrap x.name crampedParams.nameColumnWidth
          .gothic crampedParams.fontSize) = .ok names ∧
        (Metrics.grid 595).wrap specimen.remarks (some (crampedParams.contentWidth - pt 20)) .gothic
          (remarksStyle (α := Rat) specimen).size = .ok remarks ∧
        Mark.pageCount ms ≤ 2 + (names.map (·.length)).sum + remarks.length ∧
        Mark.pageCount ms = 6 ∧ c.page = Mark.pageCount ms ∧
        ∀ canvas : Canvas Rat, canvas.pages = 1 →
          (canvas.drawAll ms).1.fault = none ∧ (canvas.drawAll ms).2.pages = Mark.pageCount ms := by
  obtain ⟨rows, boxes, stops, drawn⟩ := ends_of_render (.grid 595) crampedParams specimen
  obtain ⟨⟨ms, c⟩, h⟩ : ∃ r, specimen.render (.grid 595) crampedParams = .ok r :=
    exists_of_isOk (by decide +kernel)
  have nonempty : specimen.entries ≠ [] := by
    simp [specimen, Draft.issue, specimenDraft, specimenPriced]
  obtain ⟨names, remarks, hnames, hremarks, -, hcount, hpage, hcanvas⟩ := drawn ms c h
  have hplace := eq_of_map_snd h
    (by decide +kernel : _ = Except.ok (⟨6, 448 / 5⟩ : Cursor Rat))
  refine ⟨rows, boxes, specimen_isPrintable, stops specimen_isPrintable, nonempty, ms, c, h, names,
    remarks, hnames, hremarks, hcount nonempty, ?_, hpage, hcanvas⟩
  rw [← hpage, hplace]

/-- The specimen without its entries, with two lines of remarks. -/
def bareSpecimen : Document :=
  { specimen with
    entries := []
    subtotal := 0
    tax := 0
    grandTotal := 0
    remarks := "搬入\n設置"
    remarksAreDefault := false }

/-- With these measures, the table, the summary and each line of the remarks of this document start
a page, which is one more than two pages and one for each line. -/
theorem exists_extra_page_bareSpecimen :
    ∃ ms c, bareSpecimen.render (.grid 595) crampedParams = .ok (ms, c) ∧
      ∃ names remarks,
        bareSpecimen.entries.mapM (fun x => (Metrics.grid 595).wrap x.name
          crampedParams.nameColumnWidth .gothic crampedParams.fontSize) = .ok names ∧
        (Metrics.grid 595).wrap bareSpecimen.remarks (some (crampedParams.contentWidth - pt 20))
          .gothic (remarksStyle (α := Rat) bareSpecimen).size = .ok remarks ∧
        ¬ Mark.pageCount ms ≤ 2 + (names.map (·.length)).sum + remarks.length := by
  obtain ⟨⟨ms, c⟩, h⟩ : ∃ r, bareSpecimen.render (.grid 595) crampedParams = .ok r :=
    exists_of_isOk (by decide +kernel)
  have hplace := eq_of_map_snd h
    (by decide +kernel : _ = Except.ok (⟨5, 439 / 5⟩ : Cursor Rat))
  have hremarks : (Metrics.grid 595).wrap bareSpecimen.remarks
      (some (crampedParams.contentWidth - pt 20)) .gothic
      (remarksStyle (α := Rat) bareSpecimen).size = .ok ["搬入", "設置"] := by decide +kernel
  refine ⟨ms, c, h, [], ["搬入", "設置"], rfl, hremarks, ?_⟩
  obtain ⟨bs, rfl, run⟩ := exists_drawnAs h
  rw [← run.page_eq, hplace]
  decide

end Layout

end Billing
