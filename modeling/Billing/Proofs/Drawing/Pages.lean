import Billing.Proofs.Drawing.Document
import Billing.Proofs.Lengths
import Billing.Proofs.Wrapping

/-!
# The pages of a drawing

The blocks of a drawing, page by page (`pages`). The steps that draw a table go on with a page that
has a header band already (`Stack`): they put row segments below it, one below the other, or leave
it for a new one when it has a segment.

* `pagesOf_drawing`: the marks of the pages are those of the blocks of the pages.
* `RowRun.exists_pages`, `TableRun.exists_pages`, `BoxRun.exists_pages`, `ClosingRun.exists_pages`:
  the pages of each part of a document.
-/

namespace Billing

theorem splitOnP_append {β : Type} {f : β → Bool} {xs : List β} (h : ∀ x ∈ xs, f x = false)
    (ys : List β) : (xs ++ ys).splitOnP f = (ys.splitOnP f).modifyHead (xs ++ ·) := by
  induction xs with
  | nil =>
    obtain ⟨first, rest, hys⟩ := List.exists_cons_of_ne_nil (List.splitOnP_ne_nil f ys)
    rw [List.nil_append, hys]
    rfl
  | cons x xs ih =>
    obtain ⟨hx, hxs⟩ := List.forall_mem_cons.1 h
    rw [List.cons_append, List.splitOnP_cons_eq_if_modifyHead, if_neg (by simp [hx]), ih hxs,
      List.modifyHead_modifyHead]
    rfl

theorem flatten_splitOnP {β : Type} (f : β → Bool) (xs : List β) :
    (xs.splitOnP f).flatten = xs.filter (!f ·) := by
  induction xs with
  | nil => rfl
  | cons x xs ih =>
    obtain ⟨first, rest, hxs⟩ := List.exists_cons_of_ne_nil (List.splitOnP_ne_nil f xs)
    rw [List.splitOnP_cons_eq_if_modifyHead]
    cases hx : f x <;> simp_all

theorem length_splitOnP {β : Type} (f : β → Bool) (xs : List β) :
    (xs.splitOnP f).length = xs.countP f + 1 := by
  induction xs with
  | nil => rfl
  | cons x xs ih =>
    rw [List.splitOnP_cons_eq_if_modifyHead]
    cases hx : f x <;> simp [hx, ih]

theorem Mark.pagesOf_eq_splitOnP {α : Type} (ms : List (Mark α)) :
    pagesOf ms = ms.splitOnP isNewPage := by
  induction ms with
  | nil => rfl
  | cons m ms ih =>
    obtain ⟨first, rest, hms⟩ := List.exists_cons_of_ne_nil (List.splitOnP_ne_nil isNewPage ms)
    rw [pagesOf, List.splitOnP_cons_eq_if_modifyHead, ih]
    split
    · rfl
    · rw [hms]
      rfl

namespace Layout

open Coordinate

variable {α : Type} [Coordinate α]

/-- The blocks of each page, in page order. -/
def pages (bs : List (Block α)) : List (List (Block α)) := bs.splitOnP Block.isNewPage

omit [Coordinate α] in
theorem pages_append {page : List (Block α)} (h : ∀ b ∈ page, b.isNewPage = false)
    (bs : List (Block α)) : pages (page ++ bs) = (pages bs).modifyHead (page ++ ·) :=
  splitOnP_append h bs

omit [Coordinate α] in
theorem pages_append_newPage {page : List (Block α)} (h : ∀ b ∈ page, b.isNewPage = false)
    (bs : List (Block α)) : pages (page ++ .newPage :: bs) = page :: pages bs :=
  List.splitOnP_append_cons_of_forall_mem h _ rfl _

omit [Coordinate α] in
theorem pages_newPage (bs : List (Block α)) : pages (.newPage :: bs) = [] :: pages bs := by
  rw [pages, List.splitOnP_cons_eq_if_modifyHead]
  rfl

omit [Coordinate α] in
/-- What follows on blocks goes on with their last page. -/
theorem exists_pages_append (bs : List (Block α)) :
    ∃ before page, (∀ b ∈ page, b.isNewPage = false) ∧
      ∀ rest, pages (bs ++ rest) = before ++ pages (page ++ rest) := by
  induction bs with
  | nil => exact ⟨[], [], by simp, by simp⟩
  | cons b bs ih =>
    obtain ⟨before, page, hpage, hpages⟩ := ih
    cases hb : b.isNewPage with
    | true =>
      obtain rfl : b = .newPage := by cases b <;> simp_all [Block.isNewPage]
      refine ⟨[] :: before, page, hpage, fun rest => ?_⟩
      rw [List.cons_append, pages_newPage, hpages, List.cons_append]
    | false =>
      have hsingle : ∀ b' ∈ [b], b'.isNewPage = false := List.forall_mem_singleton.2 hb
      have hcons (rest : List (Block α)) :
          pages (b :: (bs ++ rest)) = (pages (bs ++ rest)).modifyHead (b :: ·) :=
        pages_append hsingle _
      cases before with
      | nil =>
        have hbpage : ∀ b' ∈ b :: page, b'.isNewPage = false :=
          List.forall_mem_cons.2 ⟨hb, hpage⟩
        refine ⟨[], b :: page, hbpage, fun rest => ?_⟩
        rw [List.cons_append, hcons, hpages, List.nil_append, List.nil_append, pages_append hpage,
          pages_append hbpage, List.modifyHead_modifyHead]
        rfl
      | cons first before =>
        refine ⟨(b :: first) :: before, page, hpage, fun rest => ?_⟩
        rw [List.cons_append, hcons, hpages]
        rfl

omit [Coordinate α] in
theorem pages_remarks_newPage (b : RemarksBox α) (bs : List (Block α)) :
    pages (.remarks b :: .newPage :: bs) = [.remarks b] :: pages bs := by
  have hb : ∀ b' ∈ [Block.remarks b], b'.isNewPage = false := List.forall_mem_singleton.2 rfl
  exact pages_append_newPage hb bs

omit [Coordinate α] in
theorem pages_of_forall {page : List (Block α)} (h : ∀ b ∈ page, b.isNewPage = false) :
    pages page = [page] :=
  List.splitOnP_eq_singleton h

omit [Coordinate α] in
theorem flatten_pages (bs : List (Block α)) :
    (pages bs).flatten = bs.filter (!·.isNewPage) :=
  flatten_splitOnP ..

theorem pagesOf_drawing {p : LayoutParams α} {bs : List (Block α)}
    (h : ∀ b ∈ bs, b.IsDistinct p) : Mark.pagesOf (drawing p bs) = (pages bs).map (drawing p) := by
  rw [Mark.pagesOf_eq_splitOnP]
  induction bs with
  | nil => rfl
  | cons b bs ih =>
    obtain ⟨hb, hbs⟩ := List.forall_mem_cons.1 h
    obtain ⟨first, rest, hpages⟩ := List.exists_cons_of_ne_nil (List.splitOnP_ne_nil _ bs)
    cases hnew : b.isNewPage with
    | true =>
      obtain rfl : b = .newPage := by cases b <;> simp_all [Block.isNewPage]
      rw [pages, List.splitOnP_cons_eq_if_modifyHead, if_pos hnew, List.map_cons]
      exact (List.splitOnP_append_cons_of_forall_mem (by simp) _ rfl _).trans
        (congrArg ([] :: ·) (ih hbs))
    | false =>
      have hmarks : ∀ m ∈ b.marks p, m.isNewPage = false := by
        intro m hm
        have := (hb m hm).2.2
        simpa [hnew] using this
      rw [drawing_cons, splitOnP_append hmarks, ih hbs, pages, pages,
        List.splitOnP_cons_eq_if_modifyHead, if_neg (by simp [hnew]), hpages]
      simp

theorem pageCount_drawing {p : LayoutParams α} {bs : List (Block α)}
    (h : ∀ b ∈ bs, b.IsDistinct p) :
    Mark.pageCount (drawing p bs) = bs.countP (·.isNewPage) + 1 := by
  rw [← Mark.length_pagesOf, pagesOf_drawing h, List.length_map]
  exact length_splitOnP ..

/-! ## Page numbers -/

theorem RowRun.page_eq {p : LayoutParams α} {x : Entry} {lineHeight : α} {lines : List String}
    {c c' : Cursor α} {fresh isFirst : Bool} {bs : List (Block α)}
    (run : RowRun p x lineHeight lines c fresh isFirst bs c') :
    c'.page = c.page + bs.countP (·.isNewPage) := by
  induction run with
  | done => rfl
  | newPage _ _ _ ih =>
    rw [ih, List.countP_cons_of_pos rfl, List.countP_cons_of_neg (by simp [Block.isNewPage])]
    simp only [belowNextBand, Cursor.nextPage, Cursor.advance]
    omega
  | segment _ _ _ _ _ ih => simp [ih, Cursor.advance, Block.isNewPage]

theorem TableRun.page_eq {metrics : Metrics α} {p : LayoutParams α} {xs : List Entry}
    {c c' : Cursor α} {fresh : Bool} {bs : List (Block α)}
    (run : TableRun metrics p xs c fresh bs c') :
    c'.page = c.page + bs.countP (·.isNewPage) := by
  induction run with
  | done => rfl
  | row _ _ row _ ih => rw [ih, row.page_eq, List.countP_append, Nat.add_assoc]

theorem TableStart.page_eq {p : LayoutParams α} {bottom : α} {c c' : Cursor α}
    {bs : List (Block α)} (start : TableStart p bottom c bs c') :
    c'.page = c.page + bs.countP (·.isNewPage) := by
  cases start <;> simp [belowNextBand, Cursor.nextPage, Cursor.advance, Block.isNewPage]

theorem BoxStart.page_eq {p : LayoutParams α} {lineHeight : α} {c c' : Cursor α}
    {bs : List (Block α)} (start : BoxStart p lineHeight c bs c') :
    c'.page = c.page + bs.countP (·.isNewPage) := by
  cases start <;> simp [Cursor.nextPage, Block.isNewPage]

theorem BoxRun.page_eq {p : LayoutParams α} {style : TextStyle α} {whole : String}
    {lineHeight : α} {lines : List String} {c c' : Cursor α} {isFirst : Bool}
    {bs : List (Block α)} (run : BoxRun p style whole lineHeight lines c isFirst bs c') :
    c'.page = c.page + bs.countP (·.isNewPage) := by
  induction run with
  | done => rfl
  | last _ start _ _ => simp [start.page_eq, Cursor.advance, Block.isNewPage]
  | more _ start _ _ _ ih =>
    rw [ih, List.countP_append, List.countP_cons_of_neg (by simp [Block.isNewPage]),
      List.countP_cons_of_pos rfl]
    simp only [start.page_eq, Cursor.advance, Cursor.nextPage]
    omega

theorem ClosingRun.page_eq {metrics : Metrics α} {p : LayoutParams α} {doc : Document}
    {c c' : Cursor α} {bs : List (Block α)} (run : ClosingRun metrics p doc c bs c') :
    c'.page = c.page + bs.countP (·.isNewPage) := by
  obtain ⟨start, -, -, -, -, boxes⟩ := run
  rw [boxes.page_eq, List.countP_append, List.countP_cons_of_neg (by simp [Block.isNewPage])]
  cases start with
  | here => simp [belowSummary, Cursor.advance]
  | newPage =>
    rw [List.countP_cons_of_pos rfl]
    simp only [belowSummary, Cursor.advance, Cursor.nextPage, List.countP_nil]
    omega

theorem HeaderRun.page_eq {metrics : Metrics α} {p : LayoutParams α} {doc : Document}
    {bs : List (Block α)} {start : Cursor α} {bottom : α}
    (run : HeaderRun metrics p doc bs start bottom) :
    start.page = 1 + bs.countP (·.isNewPage) := by
  obtain ⟨htitle, hdate, -, -⟩ := run
  simp only [drawTitle, drawDate, bind_eq_ok, pure_eq_ok, Prod.mk.injEq] at htitle hdate
  obtain ⟨_, -, -, rfl⟩ := htitle
  obtain ⟨_, -, -, rfl⟩ := hdate
  rfl

theorem DocumentRun.page_eq {metrics : Metrics α} {p : LayoutParams α} {doc : Document}
    {bs : List (Block α)} {c : Cursor α} (run : DocumentRun metrics p doc bs c) :
    c.page = Mark.pageCount (drawing p bs) := by
  rw [pageCount_drawing run.isDistinct]
  obtain ⟨headers, table, entries, ending⟩ := run
  rw [ending.page_eq, entries.page_eq, table.page_eq, headers.page_eq]
  simp only [List.countP_append]
  omega

/-! ## Pages of a table -/

/-- The segments stand one below the other, from a height down to a height. -/
def Below : α → List (Segment α) → α → Prop
  | y, [], y' => y = y'
  | y, s :: ss, y' => s.y = y ∧ Below s.bottom ss y'

theorem Below.concat {y y' : α} {ss : List (Segment α)} {s : Segment α} (h : Below y ss y')
    (hs : s.y = y') : Below y (ss ++ [s]) s.bottom := by
  induction ss generalizing y with
  | nil => exact ⟨hs.trans (Eq.symm h), rfl⟩
  | cons s' ss ih => exact ⟨h.1, ih h.2⟩

/-- Whether no block belongs to a table. -/
def IsPlain (bs : List (Block α)) : Prop :=
  ∀ b ∈ bs, b.isBand = false ∧ b.isSegment = false ∧ b.isNewPage = false

omit [Coordinate α] in
theorem isPlain_nil : IsPlain ([] : List (Block α)) := by simp [IsPlain]

/-- The blocks of a page down to a height in its table: a header band and the row segments below it.
Right below a header band (`fresh`) there is no segment yet. -/
inductive Stack (p : LayoutParams α) : List (Block α) → α → Bool → Prop
  | band {above} (plain : IsPlain above) (y : α) :
      Stack p (above ++ [.band y]) (y + p.headerHeight) true
  | segment {page s fresh} (stack : Stack p page s.y fresh) :
      Stack p (page ++ [.segment s]) s.bottom false

theorem Stack.of_band (p : LayoutParams α) (y : α) :
    Stack p [.band y] (y + p.headerHeight) true :=
  .band isPlain_nil y

theorem Stack.isNewPage {p : LayoutParams α} {page : List (Block α)} {y : α} {fresh : Bool}
    (stack : Stack p page y fresh) : ∀ b ∈ page, b.isNewPage = false := by
  induction stack with
  | band plain =>
    rw [List.forall_mem_append]
    exact ⟨fun b hb => (plain b hb).2.2, by simp [Block.isNewPage]⟩
  | segment _ ih =>
    rw [List.forall_mem_append]
    exact ⟨ih, by simp [Block.isNewPage]⟩

theorem Stack.exists_below {p : LayoutParams α} {page : List (Block α)} {y' : α} {fresh : Bool}
    (stack : Stack p page y' fresh) :
    ∃ above y ss, page = above ++ .band y :: ss.map .segment ∧ IsPlain above ∧
      Below (y + p.headerHeight) ss y' ∧ (fresh = false → ss ≠ []) := by
  induction stack with
  | band plain y => exact ⟨_, y, [], rfl, plain, rfl, by simp⟩
  | @segment page s fresh _ ih =>
    obtain ⟨above, y, ss, rfl, plain, hbelow, -⟩ := ih
    exact ⟨above, y, ss ++ [s], by simp, plain, hbelow.concat rfl, by simp⟩

/-- A page of rows: a header band, a row segment right below it and further ones right below one
another, and nothing else of a table. -/
def IsRowPage (p : LayoutParams α) (page : List (Block α)) : Prop :=
  ∃ above y s ss y' below,
    page = above ++ .band y :: .segment s :: ss.map .segment ++ below ∧
      IsPlain above ∧ IsPlain below ∧ Below (y + p.headerHeight) (s :: ss) y'

theorem Stack.isRowPage {p : LayoutParams α} {page below : List (Block α)} {y : α}
    (stack : Stack p page y false) (hbelow : IsPlain below) : IsRowPage p (page ++ below) := by
  obtain ⟨above, y₀, ss, rfl, plain, hss, nonempty⟩ := stack.exists_below
  obtain ⟨s, ss, rfl⟩ := List.exists_cons_of_ne_nil (nonempty rfl)
  exact ⟨above, y₀, s, ss, y, below, by simp, plain, hbelow, hss⟩

/-- The rows of an entry fill up the page at whose end they start, and further ones. -/
theorem RowRun.exists_pages {p : LayoutParams α} {x : Entry} {lineHeight : α}
    {lines : List String} {c c' : Cursor α} {fresh isFirst : Bool} {bs : List (Block α)}
    (run : RowRun p x lineHeight lines c fresh isFirst bs c') {page : List (Block α)}
    (stack : Stack p page c.y fresh) (nonempty : lines ≠ [] ∨ fresh = false) :
    ∃ full last, (∀ rest, pages (page ++ bs ++ rest) = full ++ pages (last ++ rest)) ∧
      (∀ page ∈ full, IsRowPage p page) ∧ Stack p last c'.y false := by
  induction run generalizing page with
  | done =>
    obtain rfl := nonempty.resolve_left (absurd rfl)
    exact ⟨[], page, by simp, by simp, stack⟩
  | @newPage lines c isFirst bs c' left _ _ ih =>
    obtain ⟨full, last, hpages, hfull, hlast⟩ := ih (.of_band p p.pageTop) (.inl left)
    refine ⟨page :: full, last, fun rest => ?_, ?_, hlast⟩
    · rw [List.append_assoc, List.cons_append, pages_append_newPage stack.isNewPage]
      exact congrArg (page :: ·) (hpages rest)
    · rw [List.forall_mem_cons]
      exact ⟨by simpa using stack.isRowPage isPlain_nil, hfull⟩
  | @segment lines c _ isFirst count figures _ _ _ _ _ _ _ ih =>
    obtain ⟨full, last, hpages, hfull, hlast⟩ := ih (.segment
      (s := nextSegment p x lineHeight lines c.y isFirst count figures) stack) (.inr rfl)
    exact ⟨full, last, fun rest => by simpa using hpages rest, hfull, hlast⟩

/-- The rows of entries fill up the page at whose end they start, and further ones. -/
theorem TableRun.exists_pages {metrics : Metrics α} (canvas : metrics.IsCanvas)
    {p : LayoutParams α} {xs : List Entry} {c c' : Cursor α} {fresh : Bool} {bs : List (Block α)}
    (run : TableRun metrics p xs c fresh bs c') {page : List (Block α)}
    (stack : Stack p page c.y fresh) (nonempty : xs ≠ [] ∨ fresh = false) :
    ∃ full last, (∀ rest, pages (page ++ bs ++ rest) = full ++ pages (last ++ rest)) ∧
      (∀ page ∈ full, IsRowPage p page) ∧ Stack p last c'.y false := by
  induction run generalizing page with
  | done =>
    obtain rfl := nonempty.resolve_left (absurd rfl)
    exact ⟨[], page, by simp, by simp, stack⟩
  | row wrapped _ row _ ih =>
    obtain ⟨full, last, hpages, hfull, hlast⟩ :=
      row.exists_pages stack (.inl (canvas.wrap_ne_nil wrapped))
    obtain ⟨full', last', hpages', hfull', hlast'⟩ := ih hlast (.inr rfl)
    refine ⟨full ++ full', last', fun rest => ?_, List.forall_mem_append.2 ⟨hfull, hfull'⟩, hlast'⟩
    rw [← List.append_assoc, List.append_assoc, hpages, ← List.append_assoc, hpages',
      List.append_assoc]

/-- A table that starts with a header band starts on a page without rows, or on the next one. -/
theorem TableStart.exists_pages {p : LayoutParams α} {bottom : α} {c c' : Cursor α}
    {bs : List (Block α)} (start : TableStart p bottom c bs c') {page : List (Block α)}
    (plain : IsPlain page) :
    ∃ full last, (∀ rest, pages (page ++ bs ++ rest) = full ++ pages (last ++ rest)) ∧
      (full = [] ∨ full = [page]) ∧ Stack p last c'.y true := by
  cases start with
  | here => exact ⟨[], _, fun _ => rfl, .inl rfl, .band plain _⟩
  | newPage =>
    refine ⟨[page], [.band p.pageTop], fun rest => ?_, .inr rfl, ?_⟩
    · rw [List.append_assoc]
      exact pages_append_newPage (fun b hb => (plain b hb).2.2) _
    · exact .of_band p p.pageTop

/-! ## Pages of the closing -/

/-- Boxes of remarks leave no page empty but the one where they start, and that only if they do not
start at its top. -/
theorem BoxRun.exists_pages [StrictCoordinate α] {p : LayoutParams α} {style : TextStyle α}
    {whole : String} {lineHeight : α} {lines : List String} {c c' : Cursor α} {isFirst : Bool}
    {bs : List (Block α)} (run : BoxRun p style whole lineHeight lines c isFirst bs c') :
    ∃ here after, pages bs = here :: after ∧ (∀ page ∈ after, page ≠ []) ∧
      (lines ≠ [] → c.y = p.pageTop → here ≠ []) := by
  have not_lower {c : Cursor α} (lower : lt p.pageTop c.y) (top : c.y = p.pageTop) : False := by
    simp [top, StrictCoordinate.lt_self] at lower
  induction run with
  | done => exact ⟨[], [], rfl, by simp, by simp⟩
  | @last lines c isFirst bs c₁ count left start room all =>
    generalize nextBox p style whole lineHeight lines c₁.y isFirst count = box
    cases start with
    | here => exact ⟨_, [], pages_of_forall (by simp [Block.isNewPage]), by simp, by simp⟩
    | newPage _ _ lower =>
      refine ⟨[], [[.remarks box]], ?_, by simp, fun _ top => (not_lower lower top).elim⟩
      rw [List.singleton_append, pages_newPage, pages_of_forall (by simp [Block.isNewPage])]
  | @more lines c isFirst bs c₁ count bs' c' left start room nonempty rest ih =>
    obtain ⟨here, after, hpages, hafter, hhere⟩ := ih
    have hne : ∀ page ∈ here :: after, page ≠ [] :=
      List.forall_mem_cons.2 ⟨hhere nonempty rfl, hafter⟩
    generalize nextBox p style whole lineHeight lines c₁.y isFirst count = box
    cases start with
    | here =>
      refine ⟨[.remarks box], here :: after, ?_, hne, by simp⟩
      rw [List.nil_append, pages_remarks_newPage, hpages]
    | newPage _ _ lower =>
      refine ⟨[], [.remarks box] :: here :: after, ?_, List.forall_mem_cons.2 ⟨by simp, hne⟩,
        fun _ top => (not_lower lower top).elim⟩
      rw [List.singleton_append, pages_newPage, pages_remarks_newPage, hpages]

omit [Coordinate α] in
theorem isPlain_of_mem_pages {bs page : List (Block α)} (h : ∀ b ∈ bs, b.isClosing)
    (hpage : page ∈ pages bs) : IsPlain page := by
  intro b hb
  have hmem : b ∈ (pages bs).flatten := List.mem_flatten.2 ⟨page, hpage, hb⟩
  rw [flatten_pages, List.mem_filter] at hmem
  obtain ⟨-, hband, hsegment⟩ := Block.of_isClosing (h b hmem.1)
  exact ⟨hband, hsegment, by simpa using hmem.2⟩

/-- The summary stands on the page where the closing starts, or on the next one. -/
theorem ClosingRun.exists_pages [StrictCoordinate α] {metrics : Metrics α} {p : LayoutParams α}
    {doc : Document} {c c' : Cursor α} {bs : List (Block α)}
    (run : ClosingRun metrics p doc c bs c') {page : List (Block α)}
    (hpage : ∀ b ∈ page, b.isNewPage = false) :
    ∃ t below after, ShowsTotals doc t ∧ summaries bs = [t] ∧
      (pages (page ++ bs) = (page ++ .summary t :: below) :: after ∨
        pages (page ++ bs) = page :: (.summary t :: below) :: after) ∧
      (∀ page ∈ below :: after, IsPlain page) ∧ ∀ page ∈ after, page ≠ [] := by
  obtain ⟨start, shown, -, -, -, boxes⟩ := run
  rename_i bs c₁ t lines lineHeight bs'
  obtain ⟨below, after, hpages, hafter, -⟩ := boxes.exists_pages
  have hsummary : pages (.summary t :: bs') = (.summary t :: below) :: after := by
    rw [← List.singleton_append, pages_append (by simp [Block.isNewPage]), hpages]
    rfl
  have hsummaries : summaries (.summary t :: bs') = [t] :=
    congrArg (t :: ·) (summaries_eq_nil boxes.isSummary)
  refine ⟨t, below, after, shown, ?_, ?_, fun page hpage => ?_, hafter⟩
  · cases start with
    | here => exact hsummaries
    | newPage => exact hsummaries
  · cases start with
    | here =>
      left
      rw [List.nil_append, pages_append hpage, hsummary]
      rfl
    | newPage =>
      right
      rw [List.singleton_append, pages_append_newPage hpage, hsummary]
  · exact isPlain_of_mem_pages boxes.isClosing (hpages ▸ hpage)

/-! ## Pages of the header -/

theorem HeaderRun.isPlain {metrics : Metrics α} {p : LayoutParams α} {doc : Document}
    {bs : List (Block α)} {start : Cursor α} {bottom : α}
    (run : HeaderRun metrics p doc bs start bottom) : IsPlain bs := by
  intro b hb
  obtain ⟨hnew, hband, hsegment, -⟩ := Block.of_isHeader (run.isInk b hb).1
  exact ⟨hband, hsegment, hnew⟩

/-- The header blocks stand at the top of the first page, and on no other one. -/
theorem DocumentRun.exists_headers {metrics : Metrics α} {p : LayoutParams α} {doc : Document}
    {bs : List (Block α)} {c : Cursor α} (run : DocumentRun metrics p doc bs c) :
    ∃ header others rest start bottom, HeaderRun metrics p doc header start bottom ∧
      pages bs = (header ++ others) :: rest ∧ ∀ b ∈ others ++ rest.flatten, b.isHeader = false := by
  obtain ⟨headers, table, entries, ending⟩ := run
  rename_i header start bottom band top rows below closing
  have hrest : ∀ b ∈ band ++ (rows ++ closing), b.isHeader = false := by
    simp only [List.forall_mem_append]
    exact ⟨fun b hb => Block.isHeader_of_isTable (table.isTable.1 b hb),
      fun b hb => Block.isHeader_of_isTable (entries.isTable b hb),
      fun b hb => (Block.of_isClosing (ending.isClosing b hb)).1⟩
  obtain ⟨others, rest, hpages⟩ :=
    List.exists_cons_of_ne_nil (List.splitOnP_ne_nil Block.isNewPage (band ++ (rows ++ closing)))
  refine ⟨header, others, rest, start, bottom, headers, ?_, fun b hb => hrest b ?_⟩
  · rw [List.append_assoc, List.append_assoc,
      pages_append (fun b hb => (headers.isPlain b hb).2.2), pages, hpages]
    rfl
  · rw [← List.flatten_cons, ← hpages, flatten_splitOnP] at hb
    exact List.mem_of_mem_filter hb

end Layout

end Billing
