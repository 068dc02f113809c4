import Billing.Proofs.Drawing.Document
import Billing.Proofs.Lengths
import Billing.Proofs.Wrapping

/-!
# Documents that can be drawn

Drawing a document stops only where a figure has too many digits or where the issuer block needs a
text and has none, provided that the canvas can break texts into lines (`IsMeasured`) and that from
every height that is reached on a page the lines that fit below can be counted (`Paces`).

* `Document.IsPrintable`: every text of a document can be made.
* `stopsBy_render`: what stops a document whose issuer and tax rate can be drawn.
* `exists_render`: in exact arithmetic a printable document is drawn if its lines have a height.
-/

namespace Billing

/-- Whether every integer that is drawn for a document can be written. -/
structure Document.IsWritable (doc : Document) : Prop where
  amount : ∀ x ∈ doc.entries, Number.isWritable x.amount
  unitPrice : ∀ x ∈ doc.entries, x.category = .standard → Number.isWritable x.unitPrice
  subtotal : Number.isWritable doc.subtotal
  tax : Number.isWritable doc.tax
  grandTotal : Number.isWritable doc.grandTotal

/-- Whether the texts of the issuer block can be drawn. -/
structure Issuer.IsPrintable (issuer : Issuer) : Prop where
  companyName : ∃ s, issuer.companyName = .str s
  particulars : ∃ lines, Layout.issuerLines issuer = .ok lines

/-- Whether every text that is drawn for a document can be made. -/
structure Document.IsPrintable (doc : Document) : Prop extends doc.IsWritable where
  issuer : doc.issuer.IsPrintable
  taxLabel : ∃ s, taxLabel doc.taxRate = .ok s

/-- Whether a fault is that an integer of a document cannot be written. -/
def Document.Exceeds (doc : Document) (cause : Fault) : Prop :=
  cause = .digitLimit ∧ ¬ doc.IsWritable

variable {doc : Document}

theorem Number.isWritable_of_groupedText {n : Int} {s : String} (h : groupedText n = .ok s) :
    isWritable n := by
  by_contra hn
  rw [groupedText, if_neg hn] at h
  cases h

theorem isWritable_of_yen {n : Int} {s : String} (h : yen n = .ok s) : Number.isWritable n := by
  obtain ⟨_, hn, -⟩ := map_eq_ok.1 h
  exact Number.isWritable_of_groupedText hn

theorem stopsBy_groupedText {n : Int} (h : doc.IsWritable → Number.isWritable n) :
    StopsBy doc.Exceeds (Number.groupedText n) := by
  intro cause hcause
  by_cases hn : Number.isWritable n
  · rw [Number.groupedText, if_pos hn] at hcause
    cases hcause
  · rw [Number.groupedText, if_neg hn] at hcause
    exact ⟨(Except.error.inj hcause).symm, mt h hn⟩

theorem stopsBy_yen {n : Int} (h : doc.IsWritable → Number.isWritable n) :
    StopsBy doc.Exceeds (yen n) := (stopsBy_groupedText h).map _

theorem Entry.figures_eq (x : Entry) :
    x.figures = (if x.unitPriceHidden then .ok none else some <$> yen x.unitPrice) >>= fun price =>
      yen x.amount >>= fun amount =>
        .ok ⟨if x.quantityHidden then none else some (quantityText x), price, amount⟩ := by
  unfold figures
  cases x.unitPriceHidden <;> rfl

theorem stopsBy_figures {x : Entry} (hx : x ∈ doc.entries) : StopsBy doc.Exceeds x.figures := by
  rw [x.figures_eq]
  refine StopsBy.bind ?_ fun _ _ =>
    (stopsBy_yen fun h => h.amount x hx).bind fun _ _ => .of_ok rfl
  split
  · exact .of_ok rfl
  · rename_i hshown
    refine (stopsBy_yen fun h => h.unitPrice x hx ?_).map _
    cases hc : x.category <;> simp_all [Entry.unitPriceHidden, Category.isDerived]

/-! ## Measuring -/

section

variable {α : Type} [Coordinate α]

/-- Whether texts of a size can be broken into lines of any width. -/
def Metrics.Wraps (metrics : Metrics α) (size : α) : Prop :=
  ∀ s width typeface, ∃ ls, metrics.wrap s width typeface size = .ok ls

theorem Metrics.IsCanvas.exists_textHeight {metrics : Metrics α} (canvas : metrics.IsCanvas)
    {size : α} (wraps : metrics.Wraps size) (s : String) (width : Option α) (typeface : Typeface)
    (lineGap : α) : ∃ height, metrics.textHeight s width typeface size lineGap = .ok height := by
  obtain ⟨ls, hls⟩ := wraps s width typeface
  exact ⟨_, canvas.textHeight_of_wrap hls lineGap⟩

end

namespace Layout

open Coordinate

variable {α : Type} [Coordinate α]

/-- Whether the texts of a document can be measured. -/
structure IsMeasured (metrics : Metrics α) (p : LayoutParams α) : Prop where
  canvas : metrics.IsCanvas
  client : metrics.Wraps (pt 14)
  issuer : metrics.Wraps (pt 9)
  name : metrics.Wraps p.fontSize
  remarks (doc : Document) : metrics.Wraps (remarksStyle (α := α) doc).size

/-- The height of a line of a name. -/
def nameHeight (p : LayoutParams α) : α := Metrics.linesHeight 1 p.fontSize p.lineGap

/-- The height of a line of the remarks. -/
def remarksHeight (doc : Document) : α :=
  Metrics.linesHeight 1 (remarksStyle doc).size (remarksStyle doc).lineGap

/-- What holds of the heights at which segments start, rows end and boxes of remarks start, so that
the lines that fit below can be counted at each of them. -/
structure Paces (p : LayoutParams α) (start below box : α → Prop) : Prop where
  start_top : ∀ bottom, lt p.tableStartLimit (p.tableTop bottom) = false →
    start (p.tableTop bottom + p.headerHeight)
  start_band : start (p.pageTop + p.headerHeight)
  start_of_fits : ∀ y measured, below y →
    lt (p.rowBottom - y) (p.rowHeight measured) = false → start y
  below_of_start : ∀ y, start y → below y
  segment : ∀ y, start y → ∃ count,
    floorQuotient (p.rowBottom - y - p.rowPadding) (nameHeight p) = .ok count ∧
      ∀ k ≤ capacity count, below (y + p.rowHeight (ofCount k * nameHeight p))
  box_of_below : ∀ y, below y ∨ y = p.pageTop →
    box (y + p.summaryGap + p.summaryRowHeight + p.summaryRowHeight + p.remarksGap)
  box_top : box p.pageTop
  room : ∀ doc y, box y →
    ∃ count, floorQuotient (p.blockBottom - y - pt 25) (remarksHeight doc) = .ok count

variable {metrics : Metrics α} {p : LayoutParams α} {start below box : α → Prop}

/-! ## The header blocks -/

theorem exists_drawTitle (canvas : metrics.IsCanvas) (doc : Document) (c : Cursor α) :
    ∃ r, drawTitle metrics doc c = .ok r :=
  ⟨_, bind_eq_ok.2 ⟨_, canvas.textHeight_none .., rfl⟩⟩

theorem exists_drawDate (canvas : metrics.IsCanvas) (doc : Document) (c : Cursor α) :
    ∃ r, drawDate metrics p doc c = .ok r :=
  ⟨_, bind_eq_ok.2 ⟨_, canvas.textHeight_none .., rfl⟩⟩

theorem stopsBy_drawClient (measured : IsMeasured metrics p) (c : Cursor α) :
    StopsBy doc.Exceeds (drawClient metrics doc c) := by
  obtain ⟨height, hheight⟩ := measured.canvas.exists_textHeight measured.client
    (doc.clientCompany ++ "  御中") (some (pt 250)) .mincho (pt 0)
  exact (StopsBy.of_ok hheight).bind fun _ _ =>
    (stopsBy_groupedText fun h => h.grandTotal).bind fun _ _ => .of_ok rfl

theorem exists_drawIssuerLines (measured : IsMeasured metrics p) (x width : α)
    (lines : List String) (y : α) : ∃ r, drawIssuerLines metrics x width lines y = .ok r := by
  induction lines generalizing y with
  | nil => exact ⟨_, rfl⟩
  | cons s lines ih =>
    obtain ⟨height, hheight⟩ := measured.canvas.exists_textHeight measured.issuer s (some width)
      .gothic (pt 0)
    obtain ⟨r, hrest⟩ := ih (y + greater (pt 15) height)
    exact ⟨_, bind_eq_ok.2 ⟨height, hheight, bind_eq_ok.2 ⟨r, hrest, rfl⟩⟩⟩

theorem exists_drawIssuer (measured : IsMeasured metrics p) (h : doc.issuer.IsPrintable)
    (c : Cursor α) : ∃ r, drawIssuer metrics p doc c = .ok r := by
  obtain ⟨name, hname⟩ := h.companyName
  obtain ⟨lines, hlines⟩ := h.particulars
  obtain ⟨r, hrest⟩ := exists_drawIssuerLines measured (pt 360) (p.right - pt 360) lines
    (c.y + pt 60)
  simp only [drawIssuer, hname]
  exact ⟨_, bind_eq_ok.2 ⟨_, rfl, bind_eq_ok.2 ⟨lines, hlines, bind_eq_ok.2 ⟨r, hrest, rfl⟩⟩⟩⟩

/-! ## The table -/

theorem stopsBy_segmentMarks {x : Entry} (hx : x ∈ doc.entries) (text : String) (y height : α)
    (isFirst : Bool) : StopsBy doc.Exceeds (segmentMarks p x text y height isFirst) := by
  cases isFirst with
  | false => exact .of_ok rfl
  | true =>
    have hfigures : StopsBy doc.Exceeds (figureMarks p x (y + pt 8)) := by
      rw [figureMarks_eq]
      exact (stopsBy_figures hx).map _
    exact hfigures.bind fun _ _ => .of_ok rfl

theorem stopsBy_drawSegments (pace : Paces p start below box) {x : Entry} (hx : x ∈ doc.entries)
    (lines : List String) (c : Cursor α) (fresh isFirst : Bool) (hfresh : fresh = true → start c.y)
    (hbelow : below c.y) :
    StopsBy doc.Exceeds (drawSegments p x (nameHeight p) lines c fresh isFirst) := by
  induction lines, c, fresh, isFirst using drawSegments.induct p (nameHeight p) with
  | case1 c fresh isFirst =>
    rw [drawSegments, dif_pos rfl]
    exact .of_ok rfl
  | case2 lines c fresh isFirst left tooHigh broken c₁ hbroken =>
    rename_i ih
    simp only [tooHigh, dite_eq_ite] at hbroken
    have hstart : start c₁.y := by
      split at hbroken
      · obtain ⟨-, rfl⟩ := Prod.mk.inj hbroken.symm
        exact pace.start_band
      · rename_i fits
        obtain ⟨-, rfl⟩ := Prod.mk.inj hbroken
        cases hf : fresh with
        | true => exact hfresh hf
        | false => exact pace.start_of_fits _ _ hbelow (by simpa [hf] using fits)
    obtain ⟨count, room, hcount⟩ := pace.segment _ hstart
    rw [drawSegments, dif_neg left]
    simp only [hbroken]
    refine (StopsBy.of_ok room).bind fun count' hcount' => ?_
    obtain rfl := Except.ok.inj (room.symm.trans hcount')
    refine (stopsBy_segmentMarks hx _ _ _ _).bind fun _ _ =>
      (ih count ?_ ?_).bind fun _ _ => .of_ok rfl
    · simp
    · exact hcount _ (List.length_take_le ..)

theorem RowRun.below_of_paces (pace : Paces p start below box) {x : Entry} {lines : List String}
    {c c' : Cursor α} {fresh isFirst : Bool} {bs : List (Block α)}
    (run : RowRun p x (nameHeight p) lines c fresh isFirst bs c')
    (hfresh : fresh = true → start c.y) (hbelow : below c.y) : below c'.y := by
  induction run with
  | done => exact hbelow
  | newPage _ _ _ ih => exact ih (fun _ => pace.start_band) (pace.below_of_start _ pace.start_band)
  | @segment _ c fresh _ _ _ _ _ _ fits room _ _ ih =>
    have hstart : start c.y := by
      obtain rfl | fits := fits
      · exact hfresh rfl
      · exact pace.start_of_fits _ _ hbelow fits
    obtain ⟨count, room', hcount⟩ := pace.segment _ hstart
    obtain rfl := Except.ok.inj (room'.symm.trans room)
    exact ih (by simp) (hcount _ (List.length_take_le ..))

theorem stopsBy_drawRows (measured : IsMeasured metrics p) (pace : Paces p start below box)
    {xs : List Entry} (hxs : ∀ x ∈ xs, x ∈ doc.entries) (c : Cursor α) (fresh : Bool)
    (hfresh : fresh = true → start c.y) (hbelow : below c.y) :
    StopsBy doc.Exceeds (drawRows metrics p xs c fresh) := by
  induction xs generalizing c fresh with
  | nil => exact .of_ok rfl
  | cons x xs ih =>
    obtain ⟨hx, hxs⟩ := List.forall_mem_cons.1 hxs
    obtain ⟨lines, wrapped⟩ := measured.name x.name p.nameColumnWidth .gothic
    have hheight : metrics.textHeight (lines.headD "") none .gothic p.fontSize p.lineGap =
        .ok (nameHeight p) := measured.canvas.textHeight_headD wrapped .gothic p.fontSize p.lineGap
    have hrow : drawRow metrics p x c fresh =
        drawSegments p x (nameHeight p) lines c fresh true := by
      rw [drawRow, wrapped]
      simp only [bind, Except.bind, hheight]
    rw [drawRows, hrow]
    refine (stopsBy_drawSegments pace hx lines c fresh true hfresh hbelow).bind fun r hr => ?_
    obtain ⟨_, -, run⟩ := exists_rowRun hr
    exact (ih hxs r.2 false (by simp) (run.below_of_paces pace hfresh hbelow)).bind fun _ _ =>
      .of_ok rfl

theorem TableRun.below_of_paces (measured : IsMeasured metrics p) (pace : Paces p start below box)
    {xs : List Entry} {c c' : Cursor α} {fresh : Bool} {bs : List (Block α)}
    (run : TableRun metrics p xs c fresh bs c') (hfresh : fresh = true → start c.y)
    (hbelow : below c.y) : below c'.y := by
  induction run with
  | done => exact hbelow
  | row wrapped hheight row _ ih =>
    have hname := measured.canvas.textHeight_headD wrapped .gothic p.fontSize p.lineGap
    obtain rfl := Except.ok.inj (hname.symm.trans hheight)
    exact ih (by simp) (row.below_of_paces pace hfresh hbelow)

theorem start_of_startTable (pace : Paces p start below box) (bottom : α) (c : Cursor α) :
    start (startTable p bottom c).2.y := by
  unfold startTable
  dsimp only
  split
  · exact pace.start_band
  · rename_i high
    simp only [Bool.or_eq_true, not_or, Bool.not_eq_true] at high
    exact pace.start_top bottom high.1

/-! ## The closing -/

theorem exists_drawBoxes (pace : Paces p start below box) (doc : Document) {style : TextStyle α}
    {whole : String} (lines : List String) (c : Cursor α) (isFirst : Bool) (hbox : box c.y) :
    ∃ r, drawBoxes p style whole (remarksHeight doc) lines c isFirst = .ok r := by
  induction lines, c, isFirst using drawBoxes.induct (α := α) with
  | case1 c isFirst => exact ⟨([], c), by rw [drawBoxes, dif_pos rfl]⟩
  | case2 lines c isFirst left ih =>
    rw [drawBoxes, dif_neg left]
    obtain ⟨count₀, room₀⟩ := pace.room doc c.y hbox
    -- what is left starts on the next page, if something is left
    have hrest (c₁ : Cursor α) (count : Int) : ∃ r, drawBoxes p style whole (remarksHeight doc)
        (lines.drop (max 1 count.toNat)) (if (lines.drop (max 1 count.toNat)).isEmpty = true
          then (([] : List (Mark α)), c₁) else ([.newPage], c₁.nextPage p.pageTop)).2 false =
          .ok r := by
      split
      · rename_i hempty
        rw [List.isEmpty_iff.1 hempty, drawBoxes, dif_pos rfl]
        exact ⟨_, rfl⟩
      · exact ih count _ pace.box_top
    choose rest hrest using hrest
    refine exists_bind_eq_ok room₀ ?_
    by_cases htooLow : (decide (count₀ < 1) && lt p.pageTop c.y) = true
    · obtain ⟨count, room⟩ := pace.room doc p.pageTop pace.box_top
      simp only [htooLow]
      exact exists_bind_eq_ok room (exists_bind_eq_ok (hrest _ count) ⟨_, rfl⟩)
    · simp only [htooLow]
      exact exists_bind_eq_ok room₀ (exists_bind_eq_ok (hrest _ count₀) ⟨_, rfl⟩)

theorem stopsBy_drawSummary (label : ∃ s, taxLabel doc.taxRate = .ok s) (c : Cursor α) :
    StopsBy doc.Exceeds (drawSummary p doc c) := by
  obtain ⟨s, hs⟩ := label
  exact (StopsBy.of_ok hs).bind fun _ _ => (stopsBy_yen fun h => h.subtotal).bind fun _ _ =>
    (stopsBy_yen fun h => h.tax).bind fun _ _ => (stopsBy_yen fun h => h.grandTotal).bind fun _ _ =>
      .of_ok rfl

theorem exists_drawRemarks (measured : IsMeasured metrics p) (pace : Paces p start below box)
    (doc : Document) (c : Cursor α) (hbox : box c.y) :
    ∃ r, drawRemarks metrics p doc c = .ok r := by
  obtain ⟨lines, wrapped⟩ := measured.remarks doc doc.remarks (some (p.contentWidth - pt 20))
    .gothic
  have hheight : metrics.textHeight (lines.headD "") none .gothic (remarksStyle (α := α) doc).size
      (remarksStyle doc).lineGap = .ok (remarksHeight doc) :=
    measured.canvas.textHeight_headD wrapped _ _ _
  exact exists_bind_eq_ok wrapped
    (exists_bind_eq_ok hheight (exists_drawBoxes pace doc lines c true hbox))

theorem stopsBy_drawClosing (measured : IsMeasured metrics p) (pace : Paces p start below box)
    (label : ∃ s, taxLabel doc.taxRate = .ok s) (c : Cursor α) (hbelow : below c.y) :
    StopsBy doc.Exceeds (drawClosing metrics p doc c) := by
  have hsummary (c : Cursor α) (hc : below c.y ∨ c.y = p.pageTop) (broken : List (Mark α)) :
      StopsBy doc.Exceeds (drawSummary p doc (c.advance p.summaryGap) >>= fun summary =>
        drawRemarks metrics p doc (summary.2.advance p.remarksGap) >>= fun remarks =>
          .ok (broken ++ summary.1 ++ remarks.1, remarks.2)) := by
    refine (stopsBy_drawSummary label _).bind fun r hr => ?_
    obtain ⟨_, -, -, -, hplace⟩ := exists_totals hr
    have hbox := pace.box_of_below _ hc
    obtain ⟨_, hremarks⟩ := exists_drawRemarks measured pace doc (r.2.advance p.remarksGap)
      (hplace ▸ hbox)
    exact (StopsBy.of_ok hremarks).bind fun _ _ => .of_ok rfl
  unfold drawClosing
  dsimp only
  split
  · exact hsummary c (.inl hbelow) []
  · exact hsummary _ (.inr rfl) _

/-! ## The document -/

/-- A document whose issuer and tax rate can be drawn is stopped by its integers only. -/
theorem stopsBy_render (measured : IsMeasured metrics p) (pace : Paces p start below box)
    (issuer : doc.issuer.IsPrintable) (label : ∃ s, taxLabel doc.taxRate = .ok s) :
    StopsBy doc.Exceeds (doc.render metrics p) := by
  obtain ⟨⟨title, c₁⟩, htitle⟩ := exists_drawTitle measured.canvas doc ⟨1, pt 40⟩
  obtain ⟨⟨date, c₂⟩, hdate⟩ := exists_drawDate (p := p) measured.canvas doc c₁
  obtain ⟨⟨issuerMarks, issuerBottom⟩, hissuer⟩ :=
    exists_drawIssuer measured issuer (c₂.advance (pt 20))
  have hrender : doc.render metrics p =
      drawClient metrics doc (c₂.advance (pt 20)) >>= fun client =>
      let table := startTable p (greater client.2 issuerBottom) (c₂.advance (pt 20))
      drawRows metrics p doc.entries table.2 true >>= fun rows =>
        drawClosing metrics p doc rows.2 >>= fun closing =>
          .ok (title ++ date ++ client.1 ++ issuerMarks ++ table.1 ++ rows.1 ++ closing.1,
            closing.2) := by
    simp only [Document.render, htitle, hdate, hissuer, bind, Except.bind]
    rfl
  rw [hrender]
  refine (stopsBy_drawClient measured _).bind fun client _ => ?_
  have hstart := start_of_startTable pace (greater client.2 issuerBottom) (c₂.advance (pt 20))
  have hbelow := pace.below_of_start _ hstart
  refine (stopsBy_drawRows measured pace (fun _ hx => hx) _ true (fun _ => hstart) hbelow).bind
    fun r hr => ?_
  obtain ⟨_, -, run⟩ := exists_tableRun hr
  exact (stopsBy_drawClosing measured pace label r.2
    (run.below_of_paces measured pace (fun _ => hstart) hbelow)).bind fun _ _ => .of_ok rfl

end Layout

/-! ## Exact arithmetic -/

theorem exists_gridPieces {size : Rat} (hsize : size ≠ 0) (width : Option Rat)
    (paragraph : List Char) : ∃ ps, gridPieces width size paragraph = .ok ps := by
  cases width with
  | none => exact ⟨_, rfl⟩
  | some width =>
    simp only [gridPieces]
    split
    · exact ⟨_, rfl⟩
    · exact ⟨_, bind_eq_ok.2 ⟨_, Coordinate.floorQuotient_rat hsize, rfl⟩⟩

theorem exists_gridWrap {size : Rat} (hsize : size ≠ 0) (width : Option Rat) (s : List Char) :
    ∃ ls, gridWrap s width size = .ok ls := by
  choose pieces hpieces using exists_gridPieces hsize width
  rw [gridWrap_eq]
  exact ⟨_, bind_eq_ok.2 ⟨_, mapM_eq_ok_map fun p _ => hpieces p, rfl⟩⟩

theorem Metrics.IsCanvas.wraps {metrics : Metrics Rat} (canvas : metrics.IsCanvas) {size : Rat}
    (hsize : size ≠ 0) : metrics.Wraps size := by
  intro s width typeface
  cases canvas with
  | grid =>
    obtain ⟨ls, hls⟩ := exists_gridWrap hsize width s.toList
    exact ⟨_, exceptMap_eq_ok.2 ⟨ls, hls, rfl⟩⟩
  | ofMeasure => exact ⟨_, rfl⟩

namespace Layout

variable {metrics : Metrics Rat} {p : LayoutParams Rat}

theorem remarksStyle_size_ne_zero (doc : Document) : (remarksStyle (α := Rat) doc).size ≠ 0 := by
  cases h : doc.remarksAreDefault <;> simp [remarksStyle, h]

theorem remarksHeight_ne_zero (doc : Document) : (remarksHeight doc : Rat) ≠ 0 := by
  cases h : doc.remarksAreDefault <;>
    norm_num [remarksHeight, remarksStyle, h, Metrics.linesHeight]

theorem isMeasured_rat (canvas : metrics.IsCanvas) (hfont : p.fontSize ≠ 0) :
    IsMeasured metrics p where
  canvas
  client := canvas.wraps (by decide)
  issuer := canvas.wraps (by decide)
  name := canvas.wraps hfont
  remarks doc := canvas.wraps (remarksStyle_size_ne_zero doc)

theorem paces_rat (hheight : p.lineHeight ≠ 0) :
    Paces p (fun _ => True) (fun _ => True) fun _ => True where
  start_top _ _ := trivial
  start_band := trivial
  start_of_fits _ _ _ _ := trivial
  below_of_start _ _ := trivial
  segment y _ := by
    refine ⟨_, Coordinate.floorQuotient_rat ?_, fun _ _ => trivial⟩
    rwa [nameHeight, p.linesHeight_one]
  box_of_below _ _ := trivial
  box_top := trivial
  room doc y _ := ⟨_, Coordinate.floorQuotient_rat (remarksHeight_ne_zero doc)⟩

/-- A document whose texts can be made is drawn if the lines of its names have a height. -/
theorem exists_render (canvas : metrics.IsCanvas) (h : doc.IsPrintable) (hfont : p.fontSize ≠ 0)
    (hheight : p.lineHeight ≠ 0) : ∃ ms c, doc.render metrics p = .ok (ms, c) := by
  obtain ⟨⟨ms, c⟩, hrender⟩ := (stopsBy_render (isMeasured_rat canvas hfont) (paces_rat hheight)
    h.issuer h.taxLabel).exists_ok fun _ hcause => hcause.2 h.toIsWritable
  exact ⟨ms, c, hrender⟩

end Layout

/-! ## A specimen -/

/-- An item, and the levy on it. -/
def specimenItems : List Item :=
  [{ name := "設計", quantityText := "2", quantity := .ofInt 2, unit := "日", unitPrice := 15000 },
    { name := "法定福利費", quantityText := "1", quantity := .ofInt 1, unit := "式", unitPrice := 0,
      category := .welfareLevy }]

/-- The prices of these items. -/
def specimenPriced : Priced where
  entries :=
    [{ name := "設計", quantityText := "2", quantity := .ofInt 2, unit := "日", unitPrice := 15000,
       amount := 30000 },
      { name := "法定福利費", quantityText := "1", quantity := .ofInt 1, unit := "式",
        unitPrice := 4950, category := .welfareLevy, amount := 4950 }]
  taxableSubtotal := 30000
  subtotal := 34950
  tax := 3495
  grandTotal := 38445
  taxRate := .finite false 1 (-1)

/-- A draft with these prices. -/
def specimenDraft : Draft where
  kind := .estimate
  clientCompany := "株式会社見本"
  clientPerson := "佐藤"
  priced := specimenPriced
  remarks := ""
  issuedOn := ⟨2025, 4, 1⟩

/-- An issuer without particulars. -/
def specimenIssuer : Issuer where
  companyName := .str "見本工業"

/-- A document that can be printed. -/
def specimen : Document := specimenDraft.issue {} specimenIssuer

theorem specimen_priced : price {} specimenItems = .ok specimenPriced := by decide +kernel

theorem specimen_isPrintable : specimen.IsPrintable where
  amount := by decide +kernel
  unitPrice := by decide +kernel
  subtotal := by decide +kernel
  tax := by decide +kernel
  grandTotal := by decide +kernel
  issuer := ⟨⟨"見本工業", rfl⟩, [], by decide +kernel⟩
  taxLabel := ⟨"消費税 (10%)", by decide +kernel⟩

/-- The specimen is drawn with the usual measures. -/
theorem exists_render_specimen {metrics : Metrics Rat} (canvas : metrics.IsCanvas) :
    ∃ ms c, specimen.render metrics (.standard : LayoutParams Rat) = .ok (ms, c) :=
  Layout.exists_render canvas specimen_isPrintable LayoutParams.standard_isRoomy.fontSize_pos.ne'
    LayoutParams.standard_isRoomy.lineHeight_pos.ne'

end Billing
