import Billing.Proofs.Pagination
import Billing.Proofs.Rows

/-!
# Where rows stand

In exact arithmetic, on a page that has room for a row of one line (`LayoutParams.IsRoomy`), no row
segment reaches below the limit for rows (`RowRun.fits`): as many lines are taken as there is room
for, and there is room for one wherever a segment is drawn.

* `segments_placed_of_render`: the place of each row segment of a rendered document.
-/

namespace Billing

open Coordinate

namespace Layout

variable {p : LayoutParams Rat}

/-- A row segment that has the height of its lines and ends above the limit for rows. -/
structure Segment.Fits (p : LayoutParams Rat) (s : Segment Rat) : Prop where
  height_eq : s.height = max p.minRowHeight (s.lines.length * p.lineHeight + p.rowPadding)
  bottom_le : s.y + s.height ≤ p.rowBottom

/-- Where a row segment stands: it fits, its text has its lines, and these are inside it. -/
structure Segment.IsPlaced (metrics : Metrics Rat) (p : LayoutParams Rat) (s : Segment Rat) :
    Prop extends s.Fits p where
  wrap_text : metrics.wrap s.text p.nameColumnWidth .gothic p.fontSize = .ok s.lines
  text_height : metrics.textHeight s.text p.nameColumnWidth .gothic p.fontSize p.lineGap =
    .ok (s.lines.length * p.lineHeight)
  top_le : s.y ≤ s.y + 8
  text_le_bottom : s.y + 8 + s.lines.length * p.lineHeight ≤ s.y + s.height

/-- Where a line fits, as many are taken as there is room for. -/
theorem capacity_eq {room lineHeight : Rat} (hheight : 0 < lineHeight) (one : lineHeight ≤ room) :
    (capacity ⌊room / lineHeight⌋ : Rat) = ⌊room / lineHeight⌋ := by
  have hone : 1 ≤ ⌊room / lineHeight⌋ := by
    rw [Int.le_floor, Int.cast_one, one_le_div₀ hheight]
    exact one
  have : (capacity ⌊room / lineHeight⌋ : Int) = ⌊room / lineHeight⌋ := by
    unfold capacity
    omega
  exact_mod_cast this

/-- As many lines as a segment takes at a time fit into the room, if one does. -/
theorem capacity_mul_le {room lineHeight : Rat} (hheight : 0 < lineHeight)
    (one : lineHeight ≤ room) :
    capacity ⌊room / lineHeight⌋ * lineHeight ≤ room := by
  rw [capacity_eq hheight one, ← le_div_iff₀ hheight]
  exact Int.floor_le _

/-- One line more does not fit. -/
theorem lt_capacity_mul {room lineHeight : Rat} (hheight : 0 < lineHeight)
    (one : lineHeight ≤ room) :
    room < (capacity ⌊room / lineHeight⌋ + 1) * lineHeight := by
  rw [capacity_eq hheight one, ← div_lt_iff₀ hheight]
  exact Int.lt_floor_add_one _

/-- A segment that starts with room for the lowest row fits. -/
theorem nextSegment_fits (roomy : p.IsRoomy) {x : Entry} {lines : List String} {y : Rat}
    {isFirst : Bool} {count : Int} {figures : Option Figures}
    (space : y + p.minRowHeight ≤ p.rowBottom)
    (room : floorQuotient (p.rowBottom - y - p.rowPadding) p.lineHeight = .ok count) :
    (nextSegment p x p.lineHeight lines y isFirst count figures).Fits p := by
  have hheight := p.rowHeight_rat ((lines.take (capacity count)).length * p.lineHeight)
  refine ⟨hheight, ?_⟩
  rw [floorQuotient_rat roomy.lineHeight_pos.ne'] at room
  obtain rfl := Except.ok.inj room
  have one : p.lineHeight ≤ p.rowBottom - y - p.rowPadding := by
    linarith only [space, roomy.line_le_minRowHeight]
  have hlines : ((lines.take (capacity ⌊(p.rowBottom - y - p.rowPadding) / p.lineHeight⌋)).length :
      Rat) * p.lineHeight ≤ p.rowBottom - y - p.rowPadding := by
    refine le_trans ?_ (capacity_mul_le roomy.lineHeight_pos one)
    gcongr
    · exact roomy.lineHeight_pos.le
    · exact List.length_take_le ..
  change y + p.rowHeight _ ≤ p.rowBottom
  rw [ofCount_rat, hheight, ← le_sub_iff_add_le', max_le_iff]
  constructor <;> linarith only [space, hlines]

theorem RowRun.fits (roomy : p.IsRoomy) {x : Entry} {lines : List String} {c c' : Cursor Rat}
    {fresh isFirst : Bool} {bs : List (Block Rat)}
    (run : RowRun p x p.lineHeight lines c fresh isFirst bs c')
    (space : fresh = true → c.y + p.minRowHeight ≤ p.rowBottom) :
    ∀ s ∈ segments bs, s.Fits p := by
  induction run with
  | done => simp
  | newPage _ _ _ ih => exact ih fun _ => roomy.band_le_rowBottom
  | @segment lines c fresh _ _ _ _ _ left fits room _ _ ih =>
    rw [segments_cons_segment, List.forall_mem_cons]
    refine ⟨nextSegment_fits roomy ?_ room, ih (by simp)⟩
    obtain hfresh | hlow := fits
    · exact space hfresh
    · -- all lines fit, so the lowest row does
      rw [lt_rat, decide_eq_false_iff_not, not_lt, LayoutParams.rowHeight_rat] at hlow
      linarith only [hlow, le_max_left p.minRowHeight (ofCount lines.length * p.lineHeight +
        p.rowPadding)]

theorem TableRun.fits (roomy : p.IsRoomy) {metrics : Metrics Rat} (canvas : metrics.IsCanvas)
    {xs : List Entry} {c c' : Cursor Rat} {fresh : Bool} {bs : List (Block Rat)}
    (run : TableRun metrics p xs c fresh bs c')
    (space : fresh = true → c.y + p.minRowHeight ≤ p.rowBottom) :
    ∀ s ∈ segments bs, s.Fits p := by
  induction run with
  | done => simp
  | row wrapped measured row _ ih =>
    rw [canvas.textHeight_headD wrapped, p.linesHeight_one] at measured
    obtain rfl := Except.ok.inj measured
    rw [segments_append, List.forall_mem_append]
    exact ⟨row.fits roomy space, ih (by simp)⟩

theorem TableStart.space (roomy : p.IsRoomy) {bottom : Rat} {c c' : Cursor Rat}
    {bs : List (Block Rat)} (start : TableStart p bottom c bs c') :
    c'.y + p.minRowHeight ≤ p.rowBottom := by
  cases start with
  | here _ fits =>
    rw [Cursor.fits_rat, ← add_assoc] at fits
    exact fits
  | newPage => exact roomy.band_le_rowBottom

theorem DocumentRun.isPlaced (roomy : p.IsRoomy) {pageWidth : Rat} {doc : Document}
    {bs : List (Block Rat)} {c : Cursor Rat} (run : DocumentRun (.grid pageWidth) p doc bs c) :
    ∀ s ∈ segments bs, s.IsPlaced (.grid pageWidth) p := by
  obtain ⟨_, _, _, _, rows, _, table, entries, hsegments⟩ := run.exists_entries
  obtain ⟨parts, hparts, hrows⟩ := entries.exists_rows (.grid pageWidth)
  have hfits := entries.fits roomy (.grid pageWidth) fun _ => table.space roomy
  intro s hs
  rw [hsegments] at hs
  have hs' := hs
  rw [hparts, List.mem_flatten] at hs'
  obtain ⟨row, hrow, hmem⟩ := hs'
  obtain ⟨x, -, hx⟩ := exists_of_mem_right hrows hrow
  have wrap_text := hx.wrap_text (Metrics.grid_keepsLines pageWidth) s hmem
  obtain ⟨height_eq, bottom_le⟩ := hfits s hs
  refine ⟨⟨height_eq, bottom_le⟩, wrap_text, ?_, by linarith, ?_⟩
  · rw [Metrics.IsCanvas.textHeight_of_wrap (.grid pageWidth) wrap_text, p.linesHeight_eq]
  · linarith only [height_eq, roomy.le_rowPadding, le_max_right p.minRowHeight
      (s.lines.length * p.lineHeight + p.rowPadding)]

/-- The pages with row segments of a document that took steps are pages of rows. -/
theorem DocumentRun.isRowPage {metrics : Metrics Rat} (canvas : metrics.IsCanvas)
    {doc : Document} {bs : List (Block Rat)} {c : Cursor Rat}
    (run : DocumentRun metrics p doc bs c) :
    ∀ page ∈ pages bs, segments page ≠ [] → IsRowPage p page := by
  intro page hpage nonempty
  have hentries : doc.entries ≠ [] := by
    intro hnil
    obtain ⟨_, _, _, _, rows, _, -, entries, hsegments⟩ := run.exists_entries
    rw [hnil] at entries
    cases entries
    refine nonempty (segments_eq_nil fun b hb => ?_)
    exact segments_eq_nil_iff.1 hsegments b (mem_of_mem_pages hpage hb)
  obtain ⟨before, rows, after, hpages, paginated⟩ := run.exists_pages canvas hentries
  rw [hpages, List.append_assoc, List.mem_append, List.mem_append] at hpage
  have hplain (h : page ∈ before ++ after) : IsRowPage p page :=
    absurd (segments_eq_nil fun b hb => (paginated.isPlain page h b hb).2.1) nonempty
  obtain hpage | hpage | hpage := hpage
  · exact hplain (List.mem_append_left _ hpage)
  · exact paginated.isRowPage page hpage
  · exact hplain (List.mem_append_right _ hpage)

/-- In exact arithmetic and on a grid with room for a row, every row segment of a document has the
height of its lines and stands above the limit for rows with its text inside, and on each page the
segments stand right below the header band and one another. -/
theorem segments_placed_of_render (roomy : p.IsRoomy) {pageWidth : Rat} {doc : Document}
    {ms : List (Mark Rat)} {c : Cursor Rat}
    (h : doc.render (.grid pageWidth) p = .ok (ms, c)) :
    ∃ bs, DrawnAs (.grid pageWidth) p doc ms c bs ∧
      (∀ s ∈ segments bs, s.IsPlaced (.grid pageWidth) p) ∧
      ∀ page ∈ pages bs, segments page ≠ [] → IsRowPage p page := by
  obtain ⟨bs, rfl, run⟩ := exists_drawnAs h
  exact ⟨bs, ⟨rfl, run⟩, run.isPlaced roomy, run.isRowPage (.grid pageWidth)⟩

theorem segments_placed_of_specimen :
    (.standard : LayoutParams Rat).IsRoomy ∧
      ∃ ms c, specimen.render (.grid 595) .standard = .ok (ms, c) ∧
        ∃ bs, DrawnAs (.grid (595 : Rat)) .standard specimen ms c bs ∧
          (∀ s ∈ segments bs, s.IsPlaced (.grid 595) .standard) ∧
          ∀ page ∈ pages bs, segments page ≠ [] → IsRowPage .standard page := by
  obtain ⟨ms, c, h⟩ := exists_render_specimen (.grid 595)
  exact ⟨LayoutParams.standard_isRoomy, ms, c, h,
    segments_placed_of_render LayoutParams.standard_isRoomy h⟩

end Layout

end Billing
