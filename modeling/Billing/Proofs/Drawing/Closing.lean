import Billing.Proofs.Drawing.Table

/-!
# How the end of a document is drawn

The summary stands below the table or on a new page (`ClosingStart`), and the boxes of remarks
follow it (`BoxRun`), each after the first on a page of its own.

* `exists_boxRun`, `exists_closingRun`: boxes and a whole closing that were drawn took these steps,
  and their marks are those of the blocks that they lay down.
-/

namespace Billing.Layout

open Coordinate

variable {α : Type} [Coordinate α]

/-- Where the next box of remarks starts: at the place, or on a new page if it would hold no line
here and the place is not at the top of a page. -/
inductive BoxStart (p : LayoutParams α) (lineHeight : α) (c : Cursor α) :
    List (Block α) → Cursor α → Prop
  | here {count} (room : floorQuotient (p.blockBottom - c.y - pt 25) lineHeight = .ok count)
      (fits : ¬(count < 1 ∧ lt p.pageTop c.y)) : BoxStart p lineHeight c [] c
  | newPage {count} (room : floorQuotient (p.blockBottom - c.y - pt 25) lineHeight = .ok count)
      (full : count < 1) (lower : lt p.pageTop c.y) :
      BoxStart p lineHeight c [.newPage] (c.nextPage p.pageTop)

/-- The box at a height that holds the next lines of the remarks. -/
def nextBox (p : LayoutParams α) (style : TextStyle α) (whole : String) (lineHeight : α)
    (lines : List String) (y : α) (isFirst : Bool) (count : Int) : RemarksBox α where
  lines := lines.take (capacity count)
  title := if isFirst then remarksTitle else continuedTitle
  text :=
    if isFirst && (lines.drop (capacity count)).isEmpty then whole
    else Text.unlines (lines.take (capacity count))
  style
  y
  height := greater (ofCount (lines.take (capacity count)).length * lineHeight + pt 25)
    (smaller p.remarksBoxHeight (p.blockBottom - y))

/-- The steps that draw what is left of the remarks: their lines, the place, and whether no line has
been drawn yet. They lay down blocks and end at a place. -/
inductive BoxRun (p : LayoutParams α) (style : TextStyle α) (whole : String) (lineHeight : α) :
    List String → Cursor α → Bool → List (Block α) → Cursor α → Prop
  | done {c isFirst} : BoxRun p style whole lineHeight [] c isFirst [] c
  | last {lines c isFirst bs c₁ count} (left : lines ≠ []) (start : BoxStart p lineHeight c bs c₁)
      (room : floorQuotient (p.blockBottom - c₁.y - pt 25) lineHeight = .ok count)
      (all : lines.drop (capacity count) = []) :
      BoxRun p style whole lineHeight lines c isFirst
        (bs ++ [.remarks (nextBox p style whole lineHeight lines c₁.y isFirst count)])
        (c₁.advance (nextBox p style whole lineHeight lines c₁.y isFirst count).height)
  | more {lines c isFirst bs c₁ count bs' c'} (left : lines ≠ [])
      (start : BoxStart p lineHeight c bs c₁)
      (room : floorQuotient (p.blockBottom - c₁.y - pt 25) lineHeight = .ok count)
      (nonempty : lines.drop (capacity count) ≠ [])
      (rest : BoxRun p style whole lineHeight (lines.drop (capacity count))
        ((c₁.advance (nextBox p style whole lineHeight lines c₁.y isFirst count).height).nextPage
          p.pageTop) false bs' c') :
      BoxRun p style whole lineHeight lines c isFirst
        (bs ++ .remarks (nextBox p style whole lineHeight lines c₁.y isFirst count) ::
          .newPage :: bs') c'

theorem exists_boxStart {p : LayoutParams α} {lineHeight : α} {c c₁ : Cursor α} {count : Int}
    {ms : List (Mark α)}
    (room : floorQuotient (p.blockBottom - c.y - pt 25) lineHeight = .ok count)
    (h : (if (decide (count < 1) && lt p.pageTop c.y) = true then
      ([Mark.newPage], c.nextPage p.pageTop) else ([], c)) = (ms, c₁)) :
    ∃ bs, ms = drawing p bs ∧ BoxStart p lineHeight c bs c₁ := by
  split at h
  · rename_i hfull
    simp only [Bool.and_eq_true, decide_eq_true_eq] at hfull
    obtain ⟨rfl, rfl⟩ := Prod.mk.inj h
    exact ⟨[.newPage], rfl, .newPage room hfull.1 hfull.2⟩
  · rename_i hfull
    simp only [Bool.and_eq_true, decide_eq_true_eq] at hfull
    obtain ⟨rfl, rfl⟩ := Prod.mk.inj h
    exact ⟨[], rfl, .here room hfull⟩

theorem exists_boxRun {p : LayoutParams α} {style : TextStyle α} {whole : String} {lineHeight : α}
    {lines : List String} {c c' : Cursor α} {isFirst : Bool} {ms : List (Mark α)}
    (h : drawBoxes p style whole lineHeight lines c isFirst = .ok (ms, c')) :
    ∃ bs, ms = drawing p bs ∧ BoxRun p style whole lineHeight lines c isFirst bs c' := by
  induction lines, c, isFirst using drawBoxes.induct (α := α) generalizing ms with
  | case1 c isFirst =>
    simp only [drawBoxes, ↓reduceDIte, Except.ok.injEq, Prod.mk.injEq] at h
    obtain ⟨rfl, rfl⟩ := h
    exact ⟨[], rfl, .done⟩
  | case2 lines c isFirst left ih =>
    rw [drawBoxes, dif_neg left] at h
    simp only [bind_eq_ok, pure_eq_ok, Prod.exists, Prod.mk.injEq] at h
    obtain ⟨count₀, room₀, count, room, h⟩ := h
    generalize hstart : (if (decide (count₀ < 1) && lt p.pageTop c.y) = true then
      ([Mark.newPage], c.nextPage p.pageTop) else ([], c)) = start at room h
    obtain ⟨broken, c₁⟩ := start
    obtain ⟨bs, rfl, start⟩ := exists_boxStart room₀ hstart
    by_cases hrest : lines.drop (capacity count) = []
    · have hall : lines.drop (max 1 count.toNat) = [] := hrest
      simp only [hall, List.isEmpty_nil, ↓reduceIte, drawBoxes, ↓reduceDIte, Except.ok.injEq,
        Prod.mk.injEq] at h
      obtain ⟨_, _, ⟨rfl, rfl⟩, rfl, rfl⟩ := h
      refine ⟨_, ?_, .last left start room hrest⟩
      simp only [drawing_append, drawing_cons, drawing_nil, Block.marks, nextBox, capacity, hall,
        List.isEmpty_nil, List.append_nil]
    · have hne : (lines.drop (max 1 count.toNat)).isEmpty = false := by
        simpa [capacity] using hrest
      simp only [hne, Bool.false_eq_true, ↓reduceIte] at h
      obtain ⟨rest, _, hrest', rfl, rfl⟩ := h
      obtain ⟨bs', rfl, run⟩ := ih count _ hrest'
      refine ⟨_, ?_, .more left start room hrest run⟩
      simp [nextBox, hne, capacity, Block.marks]

/-- The texts of a summary are those of the document's totals. -/
structure ShowsTotals (doc : Document) (t : Totals α) : Prop where
  subtotal : yen doc.subtotal = .ok t.subtotal
  taxLabel : taxLabel doc.taxRate = .ok t.taxLabel
  tax : yen doc.tax = .ok t.tax
  total : yen doc.grandTotal = .ok t.total

/-- Where the summary starts: at the place, or on a new page if too little of this one is left. -/
inductive ClosingStart (p : LayoutParams α) (c : Cursor α) : List (Block α) → Cursor α → Prop
  | here (fits : c.fits (p.summaryGap + pt 2 * p.summaryRowHeight + p.remarksGap +
      p.remarksBoxHeight) p.blockBottom) : ClosingStart p c [] c
  | newPage (tooLow : c.fits (p.summaryGap + pt 2 * p.summaryRowHeight + p.remarksGap +
      p.remarksBoxHeight) p.blockBottom = false) :
      ClosingStart p c [.newPage] (c.nextPage p.pageTop)

/-- The place of the remarks below a summary at a place. -/
def belowSummary (p : LayoutParams α) (c : Cursor α) : Cursor α :=
  ((c.advance p.summaryRowHeight).advance p.summaryRowHeight).advance p.remarksGap

/-- The steps that draw the summary and the remarks. -/
inductive ClosingRun (metrics : Metrics α) (p : LayoutParams α) (doc : Document) (c : Cursor α) :
    List (Block α) → Cursor α → Prop
  | closing {bs c₁ t lines lineHeight bs' c'} (start : ClosingStart p c bs c₁)
      (shown : ShowsTotals doc t) (place : t.y = c₁.y + p.summaryGap)
      (wrapped : metrics.wrap doc.remarks (some (p.contentWidth - pt 20)) .gothic
        (remarksStyle (α := α) doc).size = .ok lines)
      (measured : metrics.textHeight (lines.headD "") none .gothic
        (remarksStyle (α := α) doc).size (remarksStyle (α := α) doc).lineGap = .ok lineHeight)
      (boxes : BoxRun p (remarksStyle doc) doc.remarks lineHeight lines
        (belowSummary p (c₁.advance p.summaryGap)) true bs' c') :
      ClosingRun metrics p doc c (bs ++ .summary t :: bs') c'

theorem exists_totals {p : LayoutParams α} {doc : Document} {c c' : Cursor α}
    {ms : List (Mark α)} (h : drawSummary p doc c = .ok (ms, c')) :
    ∃ t : Totals α, ShowsTotals doc t ∧ t.y = c.y ∧ ms = t.marks p ∧
      c' = (c.advance p.summaryRowHeight).advance p.summaryRowHeight := by
  simp only [drawSummary, bind_eq_ok, pure_eq_ok, Prod.mk.injEq] at h
  obtain ⟨taxLabel, hlabel, subtotal, hsub, tax, htax, total, htotal, rfl, rfl⟩ := h
  exact ⟨⟨subtotal, taxLabel, tax, total, c.y⟩, ⟨hsub, hlabel, htax, htotal⟩, rfl, rfl, rfl⟩

theorem exists_closingRun {metrics : Metrics α} {p : LayoutParams α} {doc : Document}
    {c c' : Cursor α} {ms : List (Mark α)} (h : drawClosing metrics p doc c = .ok (ms, c')) :
    ∃ bs, ms = drawing p bs ∧ ClosingRun metrics p doc c bs c' := by
  have hstart : ∃ bs c₁, ClosingStart p c bs c₁ ∧
      (if c.fits (p.summaryGap + pt 2 * p.summaryRowHeight + p.remarksGap +
        p.remarksBoxHeight) p.blockBottom = true then ([], c)
        else ([Mark.newPage], c.nextPage p.pageTop)) = (drawing p bs, c₁) := by
    split
    · rename_i fits
      exact ⟨[], c, .here fits, rfl⟩
    · rename_i tooLow
      exact ⟨[.newPage], _, .newPage (by simpa using tooLow), rfl⟩
  obtain ⟨bs, c₁, start, hstart⟩ := hstart
  simp only [drawClosing, hstart, drawRemarks, bind_eq_ok, pure_eq_ok, Prod.exists,
    Prod.mk.injEq] at h
  obtain ⟨_, _, hsummary, _, _, ⟨lines, wrapped, lineHeight, measured, hboxes⟩, rfl, rfl⟩ := h
  obtain ⟨t, shown, place, rfl, rfl⟩ := exists_totals hsummary
  obtain ⟨bs', rfl, boxes⟩ := exists_boxRun hboxes
  refine ⟨bs ++ .summary t :: bs', ?_, .closing start shown place wrapped measured boxes⟩
  simp [Block.marks]

theorem BoxRun.isClosing {p : LayoutParams α} {style : TextStyle α} {whole : String}
    {lineHeight : α} {lines : List String} {c c' : Cursor α} {isFirst : Bool}
    {bs : List (Block α)} (run : BoxRun p style whole lineHeight lines c isFirst bs c') :
    ∀ b ∈ bs, b.isClosing := by
  induction run with
  | done => simp
  | last _ start _ _ => cases start <;> simp [Block.isClosing]
  | more _ start _ _ _ ih => cases start <;> simpa [Block.isClosing] using ih

theorem BoxRun.isSummary {p : LayoutParams α} {style : TextStyle α} {whole : String}
    {lineHeight : α} {lines : List String} {c c' : Cursor α} {isFirst : Bool}
    {bs : List (Block α)} (run : BoxRun p style whole lineHeight lines c isFirst bs c') :
    ∀ b ∈ bs, b.isSummary = false := by
  induction run with
  | done => simp
  | last _ start _ _ => cases start <;> simp [Block.isSummary, Block.summary?]
  | more _ start _ _ _ ih => cases start <;> simpa [Block.isSummary, Block.summary?] using ih

theorem ClosingRun.isClosing {metrics : Metrics α} {p : LayoutParams α} {doc : Document}
    {c c' : Cursor α} {bs : List (Block α)} (run : ClosingRun metrics p doc c bs c') :
    ∀ b ∈ bs, b.isClosing := by
  obtain ⟨start, _, _, _, _, boxes⟩ := run
  have := boxes.isClosing
  cases start <;> simpa [Block.isClosing]

/-- A closing has one summary. -/
theorem ClosingRun.exists_totals {metrics : Metrics α} {p : LayoutParams α} {doc : Document}
    {c c' : Cursor α} {bs : List (Block α)} (run : ClosingRun metrics p doc c bs c') :
    ∃ t, summaries bs = [t] ∧ ShowsTotals doc t := by
  obtain ⟨start, shown, -, -, -, boxes⟩ := run
  rename_i t _ _ _
  refine ⟨t, ?_, shown⟩
  have hboxes := summaries_eq_nil boxes.isSummary
  cases start <;> exact congrArg (t :: ·) hboxes

end Billing.Layout
