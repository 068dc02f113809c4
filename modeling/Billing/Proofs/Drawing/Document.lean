import Billing.Proofs.Drawing.Closing

/-!
# How a document is drawn

The header blocks, the header band of the table, the entries, and the closing (`DocumentRun`). All
that is drawn for a document is drawn for the blocks of these steps (`DrawnAs`), each of them with
the marks that its step makes.

* `exists_drawnAs`: what was rendered of a document is drawn for such blocks.
* `DocumentRun.isDistinct`: what the marks of a document look like tells what they are drawn for.
-/

namespace Billing.Layout

open Coordinate

variable {α : Type} [Coordinate α]

/-- The header blocks, the place where they start and the bottom of the lower one of the client and
the issuer. -/
inductive HeaderRun (metrics : Metrics α) (p : LayoutParams α) (doc : Document) :
    List (Block α) → Cursor α → α → Prop
  | header {title date client issuer c₁ c₂ clientBottom issuerBottom}
      (htitle : drawTitle metrics doc ⟨1, pt 40⟩ = .ok (title, c₁))
      (hdate : drawDate metrics p doc c₁ = .ok (date, c₂))
      (hclient : drawClient metrics doc (c₂.advance (pt 20)) = .ok (client, clientBottom))
      (hissuer : drawIssuer metrics p doc (c₂.advance (pt 20)) = .ok (issuer, issuerBottom)) :
      HeaderRun metrics p doc [.header .title title, .header .date date, .header .client client,
        .header .issuer issuer] (c₂.advance (pt 20)) (greater clientBottom issuerBottom)

/-- The first header band of the table: below the header blocks, or on a new page if too little of
the first is left. -/
inductive TableStart (p : LayoutParams α) (bottom : α) (c : Cursor α) :
    List (Block α) → Cursor α → Prop
  | here (high : lt p.tableStartLimit (p.tableTop bottom) = false)
      (fits : Cursor.fits ⟨c.page, p.tableTop bottom⟩ (p.headerHeight + p.minRowHeight)
        p.rowBottom) :
      TableStart p bottom c [.band (p.tableTop bottom)]
        (Cursor.advance ⟨c.page, p.tableTop bottom⟩ p.headerHeight)
  | newPage (tooLow : lt p.tableStartLimit (p.tableTop bottom) = true ∨
        Cursor.fits ⟨c.page, p.tableTop bottom⟩ (p.headerHeight + p.minRowHeight)
          p.rowBottom = false) :
      TableStart p bottom c [.newPage, .band p.pageTop]
        (belowNextBand p ⟨c.page, p.tableTop bottom⟩)

/-- The steps that draw a document. -/
inductive DocumentRun (metrics : Metrics α) (p : LayoutParams α) (doc : Document) :
    List (Block α) → Cursor α → Prop
  | document {header start bottom band top rows below closing c}
      (headers : HeaderRun metrics p doc header start bottom)
      (table : TableStart p bottom start band top)
      (entries : TableRun metrics p doc.entries top true rows below)
      (ending : ClosingRun metrics p doc below closing c) :
      DocumentRun metrics p doc (header ++ band ++ rows ++ closing) c

/-- The marks of a document that ends at a place are those of the blocks that its steps lay down.
There is only one such list of blocks (`existsUnique_drawnAs`). -/
structure DrawnAs (metrics : Metrics α) (p : LayoutParams α) (doc : Document) (ms : List (Mark α))
    (c : Cursor α) (bs : List (Block α)) : Prop where
  marks_eq : ms = drawing p bs
  run : DocumentRun metrics p doc bs c

theorem exists_tableStart (p : LayoutParams α) (bottom : α) (c : Cursor α) :
    ∃ bs c', startTable p bottom c = (drawing p bs, c') ∧ TableStart p bottom c bs c' := by
  unfold startTable
  dsimp only
  split
  · rename_i tooLow
    exact ⟨_, _, rfl, .newPage (by simpa using tooLow)⟩
  · rename_i high
    simp only [Bool.or_eq_true, Bool.not_eq_true', not_or, Bool.not_eq_true,
      Bool.not_eq_false] at high
    refine ⟨_, _, ?_, .here high.1 high.2⟩
    simp [drawTableHeader, Block.marks]

theorem exists_drawnAs {metrics : Metrics α} {p : LayoutParams α} {doc : Document}
    {ms : List (Mark α)} {c : Cursor α} (h : doc.render metrics p = .ok (ms, c)) :
    ∃ bs, DrawnAs metrics p doc ms c bs := by
  simp only [Document.render, bind_eq_ok, pure_eq_ok, Prod.exists, Prod.mk.injEq] at h
  obtain ⟨title, c₁, htitle, date, c₂, hdate, client, clientBottom, hclient, issuer, issuerBottom,
    hissuer, rows, c₃, hrows, closing, _, hclosing, rfl, rfl⟩ := h
  obtain ⟨band, top, hstart, table⟩ :=
    exists_tableStart p (greater clientBottom issuerBottom) (c₂.advance (pt 20))
  rw [hstart] at hrows ⊢
  obtain ⟨rows, rfl, entries⟩ := exists_tableRun hrows
  obtain ⟨closing, rfl, ending⟩ := exists_closingRun hclosing
  refine ⟨_, ?_, .document (.header htitle hdate hclient hissuer) table entries ending⟩
  simp [Block.marks]

/-! ## Telling blocks apart -/

theorem isInk_of_drawTitle {metrics : Metrics α} {doc : Document} {c c' : Cursor α}
    {ms : List (Mark α)} (h : drawTitle metrics doc c = .ok (ms, c')) : ∀ m ∈ ms, IsInk m := by
  simp only [drawTitle, bind_eq_ok, pure_eq_ok, Prod.mk.injEq] at h
  obtain ⟨_, -, rfl, -⟩ := h
  simp [IsInk.text, IsInk.line]

theorem isInk_of_drawDate {metrics : Metrics α} {p : LayoutParams α} {doc : Document}
    {c c' : Cursor α} {ms : List (Mark α)} (h : drawDate metrics p doc c = .ok (ms, c')) :
    ∀ m ∈ ms, IsInk m := by
  simp only [drawDate, bind_eq_ok, pure_eq_ok, Prod.mk.injEq] at h
  obtain ⟨_, -, rfl, -⟩ := h
  simp [IsInk.text, TextStyle.plain]

theorem isInk_of_drawClient {metrics : Metrics α} {doc : Document} {c : Cursor α}
    {bottom : α} {ms : List (Mark α)} (h : drawClient metrics doc c = .ok (ms, bottom)) :
    ∀ m ∈ ms, IsInk m := by
  simp only [drawClient, bind_eq_ok, pure_eq_ok, Prod.mk.injEq] at h
  obtain ⟨_, -, _, -, rfl, -⟩ := h
  simp [IsInk.text, IsInk.line, TextStyle.plain]

/-- The lines of an issuer are texts. -/
theorem exists_text_of_drawIssuerLines {metrics : Metrics α} {x width y bottom : α}
    {lines : List String} {ms : List (Mark α)}
    (h : drawIssuerLines metrics x width lines y = .ok (ms, bottom)) :
    ∀ m ∈ ms, ∃ s y, m = .text s x y { TextStyle.plain 9 with width := some width } := by
  induction lines generalizing y bottom ms with
  | nil =>
    simp only [drawIssuerLines, Except.ok.injEq, Prod.mk.injEq] at h
    simp [← h.1]
  | cons s lines ih =>
    simp only [drawIssuerLines, bind_eq_ok, pure_eq_ok, Prod.exists, Prod.mk.injEq] at h
    obtain ⟨_, -, rest, _, hrest, rfl, -⟩ := h
    exact List.forall_mem_cons.2 ⟨⟨s, y, rfl⟩, ih hrest⟩

theorem isInk_of_drawIssuerLines {metrics : Metrics α} {x width y bottom : α}
    {lines : List String} {ms : List (Mark α)}
    (h : drawIssuerLines metrics x width lines y = .ok (ms, bottom)) : ∀ m ∈ ms, IsInk m := by
  intro m hm
  obtain ⟨s, y, rfl⟩ := exists_text_of_drawIssuerLines h m hm
  exact .text s x y rfl

/-- The seal in the block of an issuer that starts at a place. -/
def sealMarks (issuer : Issuer) (c : Cursor α) : List (Mark α) :=
  if issuer.sealColumns.isEmpty then []
  else [.seal (pt 360 + pt 110) (c.y + pt 25) issuer.sealColumns (pt 56)]

theorem isInk_sealMarks (issuer : Issuer) (c : Cursor α) : ∀ m ∈ sealMarks issuer c, IsInk m := by
  unfold sealMarks
  split
  · simp
  · exact List.forall_mem_singleton.2 (.seal ..)

/-- The block of an issuer: the name, the seal and the lines. -/
theorem exists_of_drawIssuer {metrics : Metrics α} {p : LayoutParams α} {doc : Document}
    {c : Cursor α} {bottom : α} {ms : List (Mark α)}
    (h : drawIssuer metrics p doc c = .ok (ms, bottom)) :
    ∃ name lines rest, doc.issuer.companyName = .str name ∧ issuerLines doc.issuer = .ok lines ∧
      drawIssuerLines metrics (pt 360) (p.right - pt 360) lines (c.y + pt 60) = .ok (rest, bottom) ∧
      ms = .text name (pt 360) (c.y + pt 40) { typeface := .mincho, size := pt 13, lineGap := pt 0 }
        :: sealMarks doc.issuer c ++ rest := by
  simp only [drawIssuer] at h
  split at h
  · rename_i name hname
    simp only [bind_eq_ok, pure_eq_ok, exists_eq_left', Prod.exists, Prod.mk.injEq] at h
    obtain ⟨lines, hlines, rest, _, hrest, rfl, rfl⟩ := h
    exact ⟨name, lines, rest, hname, hlines, hrest, rfl⟩
  · simp [bind_eq_ok] at h

theorem isInk_of_drawIssuer {metrics : Metrics α} {p : LayoutParams α} {doc : Document}
    {c : Cursor α} {bottom : α} {ms : List (Mark α)}
    (h : drawIssuer metrics p doc c = .ok (ms, bottom)) : ∀ m ∈ ms, IsInk m := by
  obtain ⟨name, lines, rest, -, -, hrest, rfl⟩ := exists_of_drawIssuer h
  simp only [List.forall_mem_append, List.forall_mem_cons]
  exact ⟨⟨.text _ _ _ rfl, isInk_sealMarks doc.issuer c⟩, isInk_of_drawIssuerLines hrest⟩

/-- The header blocks are drawn in black, the seal apart. -/
theorem HeaderRun.isInk {metrics : Metrics α} {p : LayoutParams α} {doc : Document}
    {bs : List (Block α)} {start : Cursor α} {bottom : α}
    (run : HeaderRun metrics p doc bs start bottom) :
    ∀ b ∈ bs, b.isHeader ∧ ∀ m ∈ b.marks p, IsInk m := by
  obtain ⟨htitle, hdate, hclient, hissuer⟩ := run
  simpa [Block.isHeader, Block.marks] using
    ⟨isInk_of_drawTitle htitle, isInk_of_drawDate hdate, isInk_of_drawClient hclient,
      isInk_of_drawIssuer hissuer⟩

theorem TableStart.isTable {p : LayoutParams α} {bottom : α} {c c' : Cursor α}
    {bs : List (Block α)} (start : TableStart p bottom c bs c') :
    (∀ b ∈ bs, b.isTable) ∧ segments bs = [] := by
  cases start <;> simp [Block.isTable, segments, Block.segment?]

theorem DocumentRun.isDistinct {metrics : Metrics α} {p : LayoutParams α} {doc : Document}
    {bs : List (Block α)} {c : Cursor α} (run : DocumentRun metrics p doc bs c) :
    ∀ b ∈ bs, b.IsDistinct p := by
  obtain ⟨headers, table, entries, ending⟩ := run
  simp only [List.forall_mem_append]
  refine ⟨⟨⟨fun b hb => ?_, fun b hb => ?_⟩, fun b hb => ?_⟩, fun b hb => ?_⟩
  · exact Block.isDistinct_of_isOrdinary fun m hm => ((headers.isInk b hb).2 m hm).isOrdinary
  · exact Block.isDistinct_of_isHeader (Block.isHeader_of_isTable (table.isTable.1 b hb))
  · exact Block.isDistinct_of_isHeader (Block.isHeader_of_isTable (entries.isTable b hb))
  · exact Block.isDistinct_of_isHeader (Block.of_isClosing (ending.isClosing b hb)).1

/-- The row segments of a document are those of its table. -/
theorem segments_document {metrics : Metrics α} {p : LayoutParams α} {doc : Document}
    {header band closing : List (Block α)} {start top below end_ : Cursor α} {bottom : α}
    (headers : HeaderRun metrics p doc header start bottom)
    (table : TableStart p bottom start band top) (rows : List (Block α))
    (ending : ClosingRun metrics p doc below closing end_) :
    segments (header ++ band ++ rows ++ closing) = segments rows := by
  simp only [segments_append, table.isTable.2]
  rw [segments_eq_nil fun b hb => (Block.of_isHeader (headers.isInk b hb).1).2.2.1,
    segments_eq_nil fun b hb => (Block.of_isClosing (ending.isClosing b hb)).2.2]
  simp

/-- The entries of a document are drawn from below its first header band on. -/
theorem DocumentRun.exists_entries {metrics : Metrics α} {p : LayoutParams α} {doc : Document}
    {bs : List (Block α)} {c : Cursor α} (run : DocumentRun metrics p doc bs c) :
    ∃ bottom start band top rows below, TableStart p bottom start band top ∧
      TableRun metrics p doc.entries top true rows below ∧ segments bs = segments rows := by
  obtain ⟨headers, table, entries, ending⟩ := run
  exact ⟨_, _, _, _, _, _, table, entries, segments_document headers table _ ending⟩

/-- The summaries of a document are those of its closing. -/
theorem summaries_document {metrics : Metrics α} {p : LayoutParams α} {doc : Document}
    {header band rows : List (Block α)} {start top below : Cursor α} {bottom : α} {xs : List Entry}
    {fresh : Bool} (headers : HeaderRun metrics p doc header start bottom)
    (table : TableStart p bottom start band top)
    (entries : TableRun metrics p xs top fresh rows below) (closing : List (Block α)) :
    summaries (header ++ band ++ rows ++ closing) = summaries closing := by
  simp only [summaries_append]
  rw [summaries_eq_nil fun b hb => (Block.of_isHeader (headers.isInk b hb).1).2.2.2,
    summaries_eq_nil fun b hb => Block.isSummary_of_isTable (table.isTable.1 b hb),
    summaries_eq_nil fun b hb => Block.isSummary_of_isTable (entries.isTable b hb)]
  rfl

/-- A document has one summary. -/
theorem DocumentRun.exists_totals {metrics : Metrics α} {p : LayoutParams α} {doc : Document}
    {bs : List (Block α)} {c : Cursor α} (run : DocumentRun metrics p doc bs c) :
    ∃ t, summaries bs = [t] ∧ ShowsTotals doc t := by
  obtain ⟨headers, table, entries, ending⟩ := run
  obtain ⟨t, hsummaries, shown⟩ := ending.exists_totals
  exact ⟨t, (summaries_document headers table entries _).trans hsummaries, shown⟩

end Billing.Layout
