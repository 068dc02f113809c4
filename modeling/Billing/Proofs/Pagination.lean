import Billing.Canvas.Print
import Billing.Proofs.Drawing.Pages
import Billing.Proofs.Drawing.Success

/-!
# The pages of a document

However often the table and the closing of a document start new pages, every page of rows has one
header band, and the summary comes with the last row or on the next page (`IsPaginated`).

* `exists_pages_of_render`: the pages of a rendered document.
-/

namespace Billing

variable {α : Type} [Coordinate α]

theorem Canvas.pages_draw (c : Canvas α) (m : Mark α) :
    (c.draw m).2.pages = c.pages + [m].countP (·.isNewPage) := by
  cases m <;> rfl

/-- A canvas on which marks are drawn to their end has counted the pages that they start. -/
theorem Canvas.pages_drawAll (c : Canvas α) {ms : List (Mark α)}
    (h : (c.drawAll ms).1.fault = none) :
    (c.drawAll ms).2.pages = c.pages + ms.countP (·.isNewPage) := by
  induction ms generalizing c with
  | nil => rfl
  | cons m ms ih =>
    have hpages := c.pages_draw m
    simp only [drawAll] at h ⊢
    cases hfault : (c.draw m).1.fault with
    | some fault => simp [hfault] at h
    | none =>
      simp only [hfault] at h ⊢
      rw [ih _ h, hpages, Nat.add_assoc, ← List.countP_append, List.singleton_append]

namespace Layout

/-- How a document with entries lies on pages: those before the rows, those with rows, and those
after them. -/
structure IsPaginated (metrics : Metrics α) (p : LayoutParams α) (doc : Document)
    (before rows after : List (List (Block α))) : Prop where
  /-- Rows start on the first or the second page, and are on every page from there to the last one
  with rows. -/
  length_before : before.length ≤ 1
  rows_ne_nil : rows ≠ []
  /-- A page of rows has one header band, right above its first row segment. -/
  isRowPage : ∀ page ∈ rows, IsRowPage p page
  /-- No other page has a header band or a row segment. -/
  isPlain : ∀ page ∈ before ++ after, IsPlain page
  /-- Title, date, client and issuer stand at the top of the first page only. -/
  headers : ∃ header others rest start bottom, HeaderRun metrics p doc header start bottom ∧
    before ++ rows ++ after = (header ++ others) :: rest ∧
    ∀ b ∈ others ++ rest.flatten, b.isHeader = false
  /-- The only summary stands below the rows of the last page of rows, or on the page after it. -/
  summary : ∃ t above below, ShowsTotals doc t ∧ summaries (before ++ rows ++ after).flatten = [t] ∧
    (rows.getLast? = some (above ++ .summary t :: below) ∨
      after.head? = some (above ++ .summary t :: below)) ∧ segments below = []
  /-- Every page is drawn on. -/
  drawn : ∀ page ∈ before ++ rows ++ after, drawing p page ≠ []

/-! ## What is on a page -/

theorem Block.marks_ne_nil {p : LayoutParams α} {b : Block α} (h : b.isHeader = false) :
    b.marks p ≠ [] := by
  cases b with
  | header => simp [isHeader] at h
  | newPage | band | segment | summary | remarks =>
    simp [marks, headerMarks, Segment.marks, Totals.marks, summaryRow, boxMarks]

theorem HeaderRun.marks_ne_nil {metrics : Metrics α} {p : LayoutParams α} {doc : Document}
    {bs : List (Block α)} {start : Cursor α} {bottom : α}
    (run : HeaderRun metrics p doc bs start bottom) : ∀ b ∈ bs, b.marks p ≠ [] := by
  obtain ⟨htitle, hdate, hclient, hissuer⟩ := run
  simp only [drawTitle, drawDate, drawClient, bind_eq_ok, pure_eq_ok, Prod.mk.injEq]
    at htitle hdate hclient
  obtain ⟨_, -, rfl, -⟩ := htitle
  obtain ⟨_, -, rfl, -⟩ := hdate
  obtain ⟨_, -, _, -, rfl, -⟩ := hclient
  obtain ⟨_, _, _, -, -, -, rfl⟩ := exists_of_drawIssuer hissuer
  simp [Block.marks]

theorem DocumentRun.marks_ne_nil {metrics : Metrics α} {p : LayoutParams α} {doc : Document}
    {bs : List (Block α)} {c : Cursor α} (run : DocumentRun metrics p doc bs c) :
    ∀ b ∈ bs, b.marks p ≠ [] := by
  obtain ⟨headers, table, entries, ending⟩ := run
  simp only [List.forall_mem_append]
  refine ⟨⟨⟨headers.marks_ne_nil, fun b hb => ?_⟩, fun b hb => ?_⟩, fun b hb => ?_⟩
  · exact Block.marks_ne_nil (Block.isHeader_of_isTable (table.isTable.1 b hb))
  · exact Block.marks_ne_nil (Block.isHeader_of_isTable (entries.isTable b hb))
  · exact Block.marks_ne_nil (Block.of_isClosing (ending.isClosing b hb)).1

omit [Coordinate α] in
theorem mem_of_mem_pages {bs page : List (Block α)} {b : Block α} (hpage : page ∈ pages bs)
    (hb : b ∈ page) : b ∈ bs := by
  have hmem : b ∈ (pages bs).flatten := List.mem_flatten.2 ⟨page, hpage, hb⟩
  rw [flatten_pages] at hmem
  exact List.mem_of_mem_filter hmem

omit [Coordinate α] in
theorem summaries_flatten_pages (bs : List (Block α)) :
    summaries (pages bs).flatten = summaries bs := by
  rw [flatten_pages, summaries, summaries, List.filterMap_filter]
  refine List.filterMap_congr fun b _ => ?_
  cases b <;> rfl

theorem HeaderRun.ne_nil {metrics : Metrics α} {p : LayoutParams α} {doc : Document}
    {bs : List (Block α)} {start : Cursor α} {bottom : α}
    (run : HeaderRun metrics p doc bs start bottom) : bs ≠ [] := by
  cases run
  simp

theorem IsRowPage.ne_nil {p : LayoutParams α} {page : List (Block α)} (h : IsRowPage p page) :
    page ≠ [] := by
  obtain ⟨above, y, s, ss, y', below, rfl, -⟩ := h
  simp

/-- A document with entries is paginated if its rows and its summary are where they should be. -/
theorem DocumentRun.isPaginated {metrics : Metrics α} {p : LayoutParams α} {doc : Document}
    {bs : List (Block α)} {c : Cursor α} (run : DocumentRun metrics p doc bs c)
    {before rows after : List (List (Block α))} (hpages : pages bs = before ++ rows ++ after)
    (hbefore : before.length ≤ 1 ∧ ∀ page ∈ before, IsPlain page ∧ page ≠ [])
    (nonempty : rows ≠ []) (hrows : ∀ page ∈ rows, IsRowPage p page)
    (hafter : ∀ page ∈ after, IsPlain page ∧ page ≠ []) {t : Totals α} {above below}
    (shown : ShowsTotals doc t) (hsummaries : summaries bs = [t])
    (place : rows.getLast? = some (above ++ .summary t :: below) ∨
      after.head? = some (above ++ .summary t :: below)) (hbelow : IsPlain below) :
    IsPaginated metrics p doc before rows after where
  length_before := hbefore.1
  rows_ne_nil := nonempty
  isRowPage := hrows
  isPlain := List.forall_mem_append.2
    ⟨fun page hpage => (hbefore.2 page hpage).1, fun page hpage => (hafter page hpage).1⟩
  headers := by simpa only [hpages] using run.exists_headers
  summary := by
    rw [← hpages, summaries_flatten_pages]
    exact ⟨t, above, below, shown, hsummaries, place, segments_eq_nil fun b hb => (hbelow b hb).2.1⟩
  drawn := by
    have hne : ∀ page ∈ before ++ rows ++ after, page ≠ [] := by
      simp only [List.forall_mem_append]
      exact ⟨⟨fun page hpage => (hbefore.2 page hpage).2,
        fun page hpage => (hrows page hpage).ne_nil⟩, fun page hpage => (hafter page hpage).2⟩
    intro page hpage hnil
    obtain ⟨b, hb⟩ := List.exists_mem_of_ne_nil page (hne page hpage)
    exact run.marks_ne_nil b (mem_of_mem_pages (hpages ▸ hpage) hb)
      (List.flatMap_eq_nil_iff.1 hnil b hb)

theorem DocumentRun.exists_pages [StrictCoordinate α] {metrics : Metrics α}
    (canvas : metrics.IsCanvas) {p : LayoutParams α} {doc : Document} {bs : List (Block α)}
    {c : Cursor α} (run : DocumentRun metrics p doc bs c) (nonempty : doc.entries ≠ []) :
    ∃ before rows after, pages bs = before ++ rows ++ after ∧
      IsPaginated metrics p doc before rows after := by
  have document := run
  obtain ⟨headers, table, entries, ending⟩ := run
  rename_i header start bottom band top rows below closing
  obtain ⟨before, first, hfirst, hbefore, stack⟩ := table.exists_pages headers.isPlain
  obtain ⟨full, last, hlast, hfull, stack⟩ := entries.exists_pages canvas stack (.inl nonempty)
  obtain ⟨t, tail, after, shown, hsummaries, hclosing, plain, hafter⟩ :=
    ending.exists_pages stack.isNewPage
  obtain ⟨htail, hplain⟩ := List.forall_mem_cons.1 plain
  have hpages : pages (header ++ band ++ rows ++ closing) =
      before ++ full ++ pages (last ++ closing) := by
    rw [List.append_assoc, hfirst, ← List.append_assoc first, hlast, List.append_assoc]
  have hbefore : before.length ≤ 1 ∧ ∀ page ∈ before, IsPlain page ∧ page ≠ [] := by
    obtain rfl | rfl := hbefore
    · simp
    · simpa using ⟨headers.isPlain, headers.ne_nil⟩
  have hsummaries := (summaries_document headers table entries closing).trans hsummaries
  have hafter : ∀ page ∈ after, IsPlain page ∧ page ≠ [] :=
    fun page hpage => ⟨hplain page hpage, hafter page hpage⟩
  obtain hclosing | hclosing := hclosing
  · -- the summary stands below the last rows
    have hpages : pages (header ++ band ++ rows ++ closing) =
        before ++ (full ++ [last ++ .summary t :: tail]) ++ after := by
      rw [hpages, hclosing]
      simp
    refine ⟨before, _, after, hpages, document.isPaginated hpages hbefore (by simp) ?_ hafter shown
      hsummaries (.inl List.getLast?_concat) htail⟩
    rw [List.forall_mem_append, List.forall_mem_singleton]
    refine ⟨hfull, stack.isRowPage ?_⟩
    exact List.forall_mem_cons.2 ⟨⟨rfl, rfl, rfl⟩, htail⟩
  · -- the summary stands on a new page
    have hpages : pages (header ++ band ++ rows ++ closing) =
        before ++ (full ++ [last]) ++ ([.summary t :: tail] ++ after) := by
      rw [hpages, hclosing]
      simp
    have place : ([.summary t :: tail] ++ after).head? = some ([] ++ .summary t :: tail) := rfl
    refine ⟨before, _, _, hpages, document.isPaginated hpages hbefore (by simp) ?_ ?_ shown
      hsummaries (.inr place) htail⟩
    · rw [List.forall_mem_append, List.forall_mem_singleton]
      exact ⟨hfull, by simpa using stack.isRowPage isPlain_nil⟩
    · rw [List.singleton_append, List.forall_mem_cons]
      exact ⟨⟨List.forall_mem_cons.2 ⟨⟨rfl, rfl, rfl⟩, htail⟩, by simp⟩, hafter⟩

/-- The pages of a document with entries: a header band above the rows of each page of rows, the
header blocks on the first page, one summary, and no empty page. The place after the last mark is on
the last page, which is also the one that a new canvas has come to when the marks are drawn. -/
theorem exists_pages_of_render [StrictCoordinate α] {metrics : Metrics α}
    (canvas : metrics.IsCanvas) {p : LayoutParams α} {doc : Document} (nonempty : doc.entries ≠ [])
    {ms : List (Mark α)} {c : Cursor α} (h : doc.render metrics p = .ok (ms, c)) :
    ∃ bs before rows after, DrawnAs metrics p doc ms c bs ∧ pages bs = before ++ rows ++ after ∧
      Mark.pagesOf ms = (before ++ rows ++ after).map (drawing p) ∧
      IsPaginated metrics p doc before rows after ∧ c.page = Mark.pageCount ms ∧
      ∀ canvas : Canvas α, canvas.pages = 1 → (canvas.drawAll ms).1.fault = none →
        (canvas.drawAll ms).2.pages = c.page := by
  obtain ⟨bs, rfl, run⟩ := exists_drawnAs h
  obtain ⟨before, rows, after, hpages, paginated⟩ := run.exists_pages canvas nonempty
  refine ⟨bs, before, rows, after, ⟨rfl, run⟩, hpages, ?_, paginated, run.page_eq, ?_⟩
  · rw [pagesOf_drawing run.isDistinct, hpages]
  · intro canvas new h
    rw [canvas.pages_drawAll h, new, run.page_eq, Mark.pageCount, Nat.add_comm]

theorem exists_pages_of_specimen :
    specimen.entries ≠ [] ∧ ∃ ms c, specimen.render (.grid 595) .standard = .ok (ms, c) ∧
      ∃ bs before rows after, DrawnAs (.grid (595 : Rat)) .standard specimen ms c bs ∧
        pages bs = before ++ rows ++ after ∧
        Mark.pagesOf ms = (before ++ rows ++ after).map (drawing .standard) ∧
        IsPaginated (.grid 595) .standard specimen before rows after ∧
        c.page = Mark.pageCount ms ∧
        ∀ canvas : Canvas Rat, canvas.pages = 1 → (canvas.drawAll ms).1.fault = none →
          (canvas.drawAll ms).2.pages = c.page := by
  have nonempty : specimen.entries ≠ [] := by
    simp [specimen, Draft.issue, specimenDraft, specimenPriced]
  obtain ⟨ms, c, h⟩ := exists_render_specimen (.grid 595)
  exact ⟨nonempty, ms, c, h, exists_pages_of_render (.grid 595) nonempty h⟩

end Layout

end Billing
