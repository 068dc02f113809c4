import Billing.Proofs.Placement

/-!
# Where the summary and the remarks stand

In exact arithmetic, on a page that has room for the summary and a box of the usual height
(`LayoutParams.HasRoomForClosing`), the remarks start below the summary on the same page, no box
reaches below the limit for blocks, and every box but the last one is full.

* `BoxRun.exists_boxes`: the boxes of remarks that start with room for a line.
* `closing_placed_of_render`: the place of the summary and of each box of a rendered document.
-/

namespace Billing

open Coordinate

/-- The height of a line of remarks: the usual ones are smaller, with more space between lines. -/
def Document.remarksLineHeight (doc : Document) : Rat :=
  if doc.remarksAreDefault then 73 / 5 else 64 / 5

/-- Measures of which the gaps are no overlaps, that have room for the summary and a box of the
usual height on a page, and for a line of remarks in such a box. -/
structure LayoutParams.HasRoomForClosing (p : LayoutParams Rat) (lineHeight : Rat) : Prop where
  summaryGap_nonneg : 0 ≤ p.summaryGap
  summaryRowHeight_nonneg : 0 ≤ p.summaryRowHeight
  remarksGap_nonneg : 0 ≤ p.remarksGap
  line_le_remarksBoxHeight : 25 + lineHeight ≤ p.remarksBoxHeight
  closing_le_blockBottom : p.pageTop + p.summaryGap + 2 * p.summaryRowHeight + p.remarksGap +
    p.remarksBoxHeight ≤ p.blockBottom

theorem Document.remarksLineHeight_pos (doc : Document) : 0 < doc.remarksLineHeight := by
  unfold remarksLineHeight
  split <;> norm_num

theorem LayoutParams.standard_hasRoomForClosing (doc : Document) :
    (standard : LayoutParams Rat).HasRoomForClosing doc.remarksLineHeight := by
  unfold Document.remarksLineHeight
  constructor <;> norm_num [standard]
  split <;> norm_num

namespace Layout

variable {p : LayoutParams Rat}

theorem remarksStyle_lineHeight (doc : Document) (count : Nat) :
    Metrics.linesHeight count (remarksStyle (α := Rat) doc).size (remarksStyle doc).lineGap =
      count * doc.remarksLineHeight := by
  rw [Metrics.linesHeight, Document.remarksLineHeight, remarksStyle, ofCount_rat]
  split <;> norm_num

/-! ## Boxes -/

section Boxes

variable {α : Type}

/-- The box of remarks that a block is. -/
def Block.box? : Block α → Option (RemarksBox α)
  | remarks b => some b
  | _ => none

/-- The boxes of remarks among blocks. -/
def boxes (bs : List (Block α)) : List (RemarksBox α) := bs.filterMap (·.box?)

/-- The blocks of boxes after the first: each on a page of its own. -/
def onNewPages (further : List (RemarksBox α)) : List (Block α) :=
  further.flatMap fun b => [.newPage, .remarks b]

theorem boxes_append (bs bs' : List (Block α)) : boxes (bs ++ bs') = boxes bs ++ boxes bs' :=
  List.filterMap_append

theorem boxes_onNewPages (further : List (RemarksBox α)) :
    boxes (onNewPages further) = further := by
  induction further with
  | nil => rfl
  | cons b further ih => exact congrArg (b :: ·) ih

theorem pages_onNewPages (further : List (RemarksBox α)) :
    pages (onNewPages further) = [] :: further.map ([.remarks ·]) := by
  induction further with
  | nil => rfl
  | cons b further ih =>
    have hcons : onNewPages (b :: further) = .newPage :: ([.remarks b] ++ onNewPages further) := rfl
    rw [hcons, pages_newPage, pages_append (List.forall_mem_singleton.2 rfl), ih]
    rfl

variable [Coordinate α] {p : LayoutParams α} {style : TextStyle α} {whole : String} {lineHeight : α}

theorem BoxStart.boxes_eq {c c₁ : Cursor α} {bs : List (Block α)}
    (start : BoxStart p lineHeight c bs c₁) : boxes bs = [] := by
  cases start <;> rfl

/-- What the boxes show: lines of the remarks, or all of the remarks in a single box. -/
theorem BoxRun.text_eq {lines : List String} {c c' : Cursor α} {isFirst : Bool}
    {bs : List (Block α)} (run : BoxRun p style whole lineHeight lines c isFirst bs c') :
    ∀ b ∈ boxes bs, b.style = style ∧ b.lines ≠ [] ∧ b.lines ⊆ lines ∧
      (b.text = Text.unlines b.lines ∨ isFirst ∧ b.text = whole ∧ b.lines = lines) := by
  induction run with
  | done => simp [boxes]
  | @last lines c isFirst _ c₁ count left start _ all =>
    rw [boxes_append, start.boxes_eq]
    refine List.forall_mem_singleton.2
      ⟨rfl, take_capacity_ne_nil left count, List.take_subset .., ?_⟩
    cases isFirst with
    | false => exact .inl rfl
    | true =>
      refine .inr ⟨rfl, by simp [nextBox, all], ?_⟩
      exact List.take_of_length_le (List.drop_eq_nil_iff.1 all)
  | @more lines c isFirst _ c₁ count _ _ left start _ nonempty _ ih =>
    rw [boxes_append, start.boxes_eq]
    refine List.forall_mem_cons.2
      ⟨⟨rfl, take_capacity_ne_nil left count, List.take_subset .., .inl ?_⟩, fun b hb => ?_⟩
    · simp [nextBox, nonempty]
    · obtain ⟨hstyle, hne, hsub, htext⟩ := ih b hb
      exact ⟨hstyle, hne, List.Subset.trans hsub (List.drop_subset ..), .inl (by simpa using htext)⟩

/-- Where wrapped lines are kept, the text of a box has the lines of the box. -/
theorem BoxRun.wrap_text {metrics : Metrics α} (keeps : metrics.KeepsLines) {width : Option α}
    {typeface : Typeface} {size : α} {lines : List String}
    (wrapped : metrics.wrap whole width typeface size = .ok lines) {c c' : Cursor α}
    {isFirst : Bool} {bs : List (Block α)}
    (run : BoxRun p style whole lineHeight lines c isFirst bs c') :
    ∀ b ∈ boxes bs, metrics.wrap b.text width typeface size = .ok b.lines := by
  intro b hb
  obtain ⟨-, hne, hsub, htext | ⟨-, htext, hlines⟩⟩ := run.text_eq b hb
  · rw [htext]
    exact keeps wrapped hsub hne
  · rw [htext, hlines]
    exact wrapped

end Boxes

/-- A box that has the height of its lines, but at least the usual one as far as the page allows,
and ends above the limit for blocks. -/
structure RemarksBox.Fits (p : LayoutParams Rat) (lineHeight : Rat) (b : RemarksBox Rat) :
    Prop where
  height_eq : b.height = max (b.lines.length * lineHeight + 25)
    (min p.remarksBoxHeight (p.blockBottom - b.y))
  bottom_le : b.y + b.height ≤ p.blockBottom

/-- A box that holds as many lines as fit above the limit for blocks. -/
def RemarksBox.IsFull (p : LayoutParams Rat) (lineHeight : Rat) (b : RemarksBox Rat) : Prop :=
  b.y + 25 + b.lines.length * lineHeight ≤ p.blockBottom ∧
    p.blockBottom < b.y + 25 + (b.lines.length + 1) * lineHeight

section Run

variable {style : TextStyle Rat} {whole : String} {lineHeight : Rat}

/-- A box that starts with room for a line fits. -/
theorem nextBox_fits (hheight : 0 < lineHeight) {lines : List String} {y : Rat} {isFirst : Bool}
    {count : Int} (space : y + 25 + lineHeight ≤ p.blockBottom)
    (room : floorQuotient (p.blockBottom - y - pt 25) lineHeight = .ok count) :
    (nextBox p style whole lineHeight lines y isFirst count).Fits p lineHeight := by
  rw [floorQuotient_rat hheight.ne', pt_rat] at room
  obtain rfl := Except.ok.inj room
  set count := ⌊(p.blockBottom - y - 25) / lineHeight⌋
  have height_eq : (nextBox p style whole lineHeight lines y isFirst count).height =
      max ((lines.take (capacity count)).length * lineHeight + 25)
        (min p.remarksBoxHeight (p.blockBottom - y)) := by
    simp [nextBox]
  refine ⟨height_eq, ?_⟩
  have hlines : ((lines.take (capacity count)).length : Rat) * lineHeight ≤
      p.blockBottom - y - 25 := by
    refine le_trans ?_ (capacity_mul_le hheight (by linarith only [space]))
    gcongr
    exact List.length_take_le ..
  rw [height_eq, ← le_sub_iff_add_le', max_le_iff]
  change _ ≤ p.blockBottom - y ∧ _
  exact ⟨by linarith only [hlines], min_le_right ..⟩

/-- A box after which lines are left is full. -/
theorem nextBox_isFull (hheight : 0 < lineHeight) {lines : List String} {y : Rat} {isFirst : Bool}
    {count : Int} (space : y + 25 + lineHeight ≤ p.blockBottom)
    (room : floorQuotient (p.blockBottom - y - pt 25) lineHeight = .ok count)
    (more : lines.drop (capacity count) ≠ []) :
    (nextBox p style whole lineHeight lines y isFirst count).IsFull p lineHeight := by
  rw [floorQuotient_rat hheight.ne', pt_rat] at room
  obtain rfl := Except.ok.inj room
  set count := ⌊(p.blockBottom - y - 25) / lineHeight⌋
  have hlength : (lines.take (capacity count)).length = capacity count := by
    rw [ne_eq, List.drop_eq_nil_iff, not_le] at more
    exact List.length_take_of_le more.le
  have one : lineHeight ≤ p.blockBottom - y - 25 := by linarith only [space]
  have hfits : capacity count * lineHeight ≤ p.blockBottom - y - 25 := capacity_mul_le hheight one
  have hmore : p.blockBottom - y - 25 < (capacity count + 1) * lineHeight :=
    lt_capacity_mul hheight one
  refine ⟨?_, ?_⟩
  · change y + 25 + ((lines.take (capacity count)).length : Rat) * lineHeight ≤ p.blockBottom
    rw [hlength]
    linarith only [hfits]
  · change p.blockBottom < y + 25 + (((lines.take (capacity count)).length : Rat) + 1) * lineHeight
    rw [hlength]
    linarith only [hmore]

theorem BoxStart.eq_here (hheight : 0 < lineHeight) {c c₁ : Cursor Rat} {bs : List (Block Rat)}
    (start : BoxStart p lineHeight c bs c₁) (space : c.y + 25 + lineHeight ≤ p.blockBottom) :
    bs = [] ∧ c₁ = c := by
  cases start with
  | here => exact ⟨rfl, rfl⟩
  | newPage room full =>
    -- the place has room for a line
    rw [floorQuotient_rat hheight.ne', pt_rat] at room
    obtain rfl := Except.ok.inj room
    rw [Int.floor_lt, Int.cast_one, div_lt_one hheight] at full
    linarith only [space, full]

/-- Where there is room for a line, here and at the top of a page, the remarks are a box here and
boxes at the top of pages of their own, all of them full but the last. -/
theorem BoxRun.exists_boxes (hheight : 0 < lineHeight) {lines : List String} {c c' : Cursor Rat}
    {isFirst : Bool} {bs : List (Block Rat)}
    (run : BoxRun p style whole lineHeight lines c isFirst bs c') (left : lines ≠ [])
    (space : c.y + 25 + lineHeight ≤ p.blockBottom)
    (top : p.pageTop + 25 + lineHeight ≤ p.blockBottom) :
    ∃ first further, bs = .remarks first :: onNewPages further ∧ first.y = c.y ∧
      (∀ b ∈ further, b.y = p.pageTop) ∧ (∀ b ∈ first :: further, b.Fits p lineHeight) ∧
      ∀ b ∈ (first :: further).dropLast, b.IsFull p lineHeight := by
  induction run with
  | done => exact absurd rfl left
  | last _ start room _ =>
    obtain ⟨rfl, rfl⟩ := start.eq_here hheight space
    exact ⟨_, [], rfl, rfl, by simp, by simpa using nextBox_fits hheight space room, by simp⟩
  | more _ start room nonempty _ ih =>
    obtain ⟨rfl, rfl⟩ := start.eq_here hheight space
    obtain ⟨first, further, rfl, hfirst, hfurther, hfits, hfull⟩ := ih nonempty top
    refine ⟨_, first :: further, rfl, rfl, ?_, ?_, ?_⟩
    · exact List.forall_mem_cons.2 ⟨hfirst, hfurther⟩
    · exact List.forall_mem_cons.2 ⟨nextBox_fits hheight space room, hfits⟩
    · rw [List.dropLast_cons_cons, List.forall_mem_cons]
      exact ⟨nextBox_isFull hheight space room nonempty, hfull⟩

end Run

/-! ## The closing of a document -/

/-- Where a box of remarks stands: it fits, its text has its lines, and these are inside it. -/
structure RemarksBox.IsPlaced (metrics : Metrics Rat) (p : LayoutParams Rat) (doc : Document)
    (b : RemarksBox Rat) : Prop extends b.Fits p doc.remarksLineHeight where
  style_eq : b.style = remarksStyle doc
  wrap_text : metrics.wrap b.text (some (p.contentWidth - 20)) .gothic b.style.size = .ok b.lines
  text_height : metrics.textHeight b.text (some (p.contentWidth - 20)) .gothic b.style.size
    b.style.lineGap = .ok (b.lines.length * doc.remarksLineHeight)
  lines_le_height : 25 + b.lines.length * doc.remarksLineHeight ≤ b.height
  text_le_bottom : b.y + 20 + b.lines.length * doc.remarksLineHeight ≤ b.y + b.height

/-- Where a summary and the boxes of remarks stand. -/
structure IsClosed (metrics : Metrics Rat) (p : LayoutParams Rat) (doc : Document)
    (t : Totals Rat) (first : RemarksBox Rat) (further : List (RemarksBox Rat)) : Prop where
  /-- The first box is below the summary and has at least the usual height. -/
  first_y : first.y = t.y + 2 * p.summaryRowHeight + p.remarksGap
  le_first_height : p.remarksBoxHeight ≤ first.height
  /-- The further boxes are at the top of their pages. -/
  further_y : ∀ b ∈ further, b.y = p.pageTop
  isPlaced : ∀ b ∈ first :: further, b.IsPlaced metrics p doc
  isFull : ∀ b ∈ (first :: further).dropLast, b.IsFull p doc.remarksLineHeight

theorem RemarksBox.isPlaced_of_fits {pageWidth : Rat} {doc : Document} {b : RemarksBox Rat}
    (fits : b.Fits p doc.remarksLineHeight) (style_eq : b.style = remarksStyle doc)
    (wrap_text : (Metrics.grid pageWidth).wrap b.text (some (p.contentWidth - 20)) .gothic
      b.style.size = .ok b.lines) : b.IsPlaced (.grid pageWidth) p doc := by
  have hlines := le_max_left (b.lines.length * doc.remarksLineHeight + 25)
    (min p.remarksBoxHeight (p.blockBottom - b.y))
  rw [← fits.height_eq] at hlines
  refine ⟨fits, style_eq, wrap_text, ?_, by linarith only [hlines], by linarith only [hlines]⟩
  rw [Metrics.IsCanvas.textHeight_of_wrap (.grid pageWidth) wrap_text, style_eq,
    remarksStyle_lineHeight]

theorem ClosingStart.space {doc : Document} (room : p.HasRoomForClosing doc.remarksLineHeight)
    {c c' : Cursor Rat} {bs : List (Block Rat)} (start : ClosingStart p c bs c') :
    c'.y + p.summaryGap + 2 * p.summaryRowHeight + p.remarksGap + p.remarksBoxHeight ≤
      p.blockBottom := by
  cases start with
  | here fits =>
    rw [Cursor.fits_rat, pt_rat] at fits
    linarith only [fits]
  | newPage => exact room.closing_le_blockBottom

theorem ClosingRun.exists_boxes {doc : Document} (room : p.HasRoomForClosing doc.remarksLineHeight)
    {pageWidth : Rat} {c c' : Cursor Rat} {bs : List (Block Rat)}
    (run : ClosingRun (.grid pageWidth) p doc c bs c') :
    ∃ start t first further, bs = start ++ .summary t :: .remarks first :: onNewPages further ∧
      summaries bs = [t] ∧ boxes bs = first :: further ∧
      IsClosed (.grid pageWidth) p doc t first further := by
  obtain ⟨start, -, place, wrapped, measured, run⟩ := run
  rename_i bs₁ c₁ t lines lineHeight bs
  have canvas : (Metrics.grid pageWidth).IsCanvas := .grid pageWidth
  rw [canvas.textHeight_headD wrapped, remarksStyle_lineHeight, Nat.cast_one, one_mul] at measured
  obtain rfl := Except.ok.inj measured
  have hspace := start.space room
  have hline := room.line_le_remarksBoxHeight
  have hplace : (belowSummary p (c₁.advance p.summaryGap)).y =
      t.y + 2 * p.summaryRowHeight + p.remarksGap := by
    rw [place]
    simp only [belowSummary, Cursor.advance]
    ring
  have htop : p.pageTop + 25 + doc.remarksLineHeight ≤ p.blockBottom := by
    linarith only [hline, room.closing_le_blockBottom, room.summaryGap_nonneg,
      room.summaryRowHeight_nonneg, room.remarksGap_nonneg]
  have htext := run.text_eq
  have hwrap := run.wrap_text (Metrics.grid_keepsLines pageWidth) wrapped
  have hsummary := summaries_eq_nil run.isSummary
  obtain ⟨first, further, rfl, hfirst, hfurther, hfits, hfull⟩ :=
    run.exists_boxes doc.remarksLineHeight_pos (canvas.wrap_ne_nil wrapped)
      (by rw [hplace, place]; linarith only [hspace, hline]) htop
  have hboxes : boxes (.remarks first :: onNewPages further) = first :: further :=
    congrArg (first :: ·) (boxes_onNewPages further)
  rw [hboxes] at htext hwrap
  rw [hplace] at hfirst
  refine ⟨bs₁, t, first, further, rfl, ?_, ?_, hfirst, ?_, hfurther, fun b hb => ?_, hfull⟩
  · cases start <;> exact congrArg (t :: ·) hsummary
  · cases start <;> exact hboxes
  · rw [(hfits first List.mem_cons_self).height_eq]
    refine le_max_of_le_right (le_min le_rfl ?_)
    rw [hfirst, place]
    linarith only [hspace]
  · have hstyle := (htext b hb).1
    refine RemarksBox.isPlaced_of_fits (hfits b hb) hstyle ?_
    rw [hstyle]
    exact hwrap b hb

theorem boxes_eq_nil {α : Type} {bs : List (Block α)} (h : ∀ b ∈ bs, b.isHeader ∨ b.isTable) :
    boxes bs = [] := by
  refine List.filterMap_eq_nil_iff.2 fun b hb => ?_
  have := h b hb
  cases b <;> simp_all [Block.isHeader, Block.isTable, Block.box?]

/-- The boxes of a document are those of its closing. -/
theorem boxes_document {α : Type} [Coordinate α] {metrics : Metrics α} {p : LayoutParams α}
    {doc : Document} {header band rows : List (Block α)} {start top below : Cursor α} {bottom : α}
    {xs : List Entry} {fresh : Bool} (headers : HeaderRun metrics p doc header start bottom)
    (table : TableStart p bottom start band top)
    (entries : TableRun metrics p xs top fresh rows below) (closing : List (Block α)) :
    boxes (header ++ band ++ rows ++ closing) = boxes closing := by
  simp only [boxes_append]
  rw [boxes_eq_nil fun b hb => .inl (headers.isInk b hb).1,
    boxes_eq_nil fun b hb => .inr (table.isTable.1 b hb),
    boxes_eq_nil fun b hb => .inr (entries.isTable b hb)]
  rfl

/-- The first box stands with the summary, and each further one on a page of its own. -/
theorem exists_pages_closing (bs : List (Block Rat)) (t : Totals Rat) (first : RemarksBox Rat)
    (further : List (RemarksBox Rat)) :
    ∃ before above, pages (bs ++ .summary t :: .remarks first :: onNewPages further) =
      before ++ (above ++ [.summary t, .remarks first]) :: further.map ([.remarks ·]) := by
  obtain ⟨before, above, habove, hpages⟩ := exists_pages_append bs
  have hclosing : ∀ b ∈ above ++ [.summary t, .remarks first], b.isNewPage = false :=
    List.forall_mem_append.2 ⟨habove, by simp [Block.isNewPage]⟩
  refine ⟨before, above, ?_⟩
  have happend : above ++ .summary t :: .remarks first :: onNewPages further =
      above ++ [.summary t, .remarks first] ++ onNewPages further := by simp
  rw [hpages, happend, pages_append hclosing, pages_onNewPages, List.modifyHead_cons,
    List.append_nil]

/-- In exact arithmetic and on a grid with room for them, the summary and the first box of remarks
stand on one page. The remarks go on in boxes at the top of pages of their own; every box holds its
text and ends above the limit for blocks, and all but the last are full. -/
theorem closing_placed_of_render {doc : Document}
    (room : p.HasRoomForClosing doc.remarksLineHeight) {pageWidth : Rat} {ms : List (Mark Rat)}
    {c : Cursor Rat} (h : doc.render (.grid pageWidth) p = .ok (ms, c)) :
    ∃ bs before above t first further, DrawnAs (.grid pageWidth) p doc ms c bs ∧
      pages bs = before ++ (above ++ [.summary t, .remarks first]) :: further.map ([.remarks ·]) ∧
      summaries bs = [t] ∧ boxes bs = first :: further ∧
      IsClosed (.grid pageWidth) p doc t first further := by
  obtain ⟨bs, rfl, run⟩ := exists_drawnAs h
  have hrun := run
  obtain ⟨headers, table, entries, ending⟩ := run
  rename_i header place bottom band top rows below closing
  obtain ⟨start, t, first, further, rfl, hsummaries, hboxes, closed⟩ := ending.exists_boxes room
  obtain ⟨before, above, hpages⟩ :=
    exists_pages_closing (header ++ band ++ rows ++ start) t first further
  rw [List.append_assoc] at hpages
  refine ⟨_, before, above, t, first, further, ⟨rfl, hrun⟩, hpages, ?_, ?_, closed⟩
  · rw [summaries_document headers table entries, hsummaries]
  · rw [boxes_document headers table entries, hboxes]

/-- Any remarks can be printed. -/
theorem isPrintable_withRemarks {doc : Document} (h : doc.IsPrintable) (remarks : String)
    (areDefault : Bool) :
    Document.IsPrintable { doc with remarks := remarks, remarksAreDefault := areDefault } :=
  ⟨⟨h.amount, h.unitPrice, h.subtotal, h.tax, h.grandTotal⟩, h.issuer, h.taxLabel⟩

/-- The specimen with remarks that take several pages. -/
def longSpecimen : Document :=
  { specimen with
    remarks := Text.unlines (List.replicate 120 "搬入経路の確認")
    remarksAreDefault := false }

theorem closing_placed_of_longSpecimen :
    (.standard : LayoutParams Rat).HasRoomForClosing longSpecimen.remarksLineHeight ∧
      ∃ ms c, longSpecimen.render (.grid 595) .standard = .ok (ms, c) ∧
        ∃ bs before above t first further,
          DrawnAs (.grid (595 : Rat)) .standard longSpecimen ms c bs ∧
          pages bs =
            before ++ (above ++ [.summary t, .remarks first]) :: further.map ([.remarks ·]) ∧
          summaries bs = [t] ∧ boxes bs = first :: further ∧
          IsClosed (.grid 595) .standard longSpecimen t first further := by
  have printable : longSpecimen.IsPrintable := isPrintable_withRemarks specimen_isPrintable _ _
  have room := LayoutParams.standard_hasRoomForClosing longSpecimen
  obtain ⟨ms, c, h⟩ := exists_render (.grid 595) printable
    LayoutParams.standard_isRoomy.fontSize_pos.ne' LayoutParams.standard_isRoomy.lineHeight_pos.ne'
  exact ⟨room, ms, c, h, closing_placed_of_render room h⟩

end Layout

end Billing
