import Billing.Proofs.Division
import Billing.Proofs.Drawing.Passes
import Mathlib.Order.Bounds.Basic

/-!
# Where a table is broken

In exact arithmetic no page of a table is left early (`IsBroken`): a page is started only for lines
that do not fit below what is there, and a row segment that more lines of its entry follow holds as
many lines as fit, or one line where none does (`Segment.IsFilled`).

* `RowRun.ends`: where the next mark of a table goes, read off its last block.
* `RowRun.isBroken`: how the blocks of one row are broken.
* `rowStep_of_rowPass`: the same of each single pass of the loop that draws a row.
* `rows_broken_of_render`: the table of a rendered document.
-/

namespace Billing.Layout

open Coordinate

variable {p : LayoutParams Rat}

/-! ## Segments that are filled -/

/-- The numbers of lines that fit between a height and the limit for rows. -/
def fittingCounts (p : LayoutParams Rat) (y : Rat) : Set ℕ :=
  { k | 1 ≤ k ∧ k * p.lineHeight + p.rowPadding ≤ p.rowBottom - y }

/-- A segment of as many lines as fit where it stands, or of one line if none does. -/
def Segment.IsFilled (p : LayoutParams Rat) (s : Segment Rat) : Prop :=
  IsGreatest (fittingCounts p s.y) s.lines.length ∨
    fittingCounts p s.y = ∅ ∧ s.lines.length = 1

/-- As many lines are taken as fit, but at least one. -/
theorem capacity_fits (hline : 0 < p.lineHeight) (y : Rat) :
    let n := capacity ⌊(p.rowBottom - y - p.rowPadding) / p.lineHeight⌋
    IsGreatest (fittingCounts p y) n ∨ fittingCounts p y = ∅ ∧ n = 1 := by
  intro n
  by_cases one : p.lineHeight ≤ p.rowBottom - y - p.rowPadding
  · have hfits : n * p.lineHeight ≤ p.rowBottom - y - p.rowPadding := capacity_mul_le hline one
    refine .inl ⟨⟨Nat.le_max_left .., by linarith only [hfits]⟩, fun k hk => ?_⟩
    have hmore : p.rowBottom - y - p.rowPadding < (n + 1) * p.lineHeight :=
      lt_capacity_mul hline one
    have hk : k * p.lineHeight < (n + 1 : ℕ) * p.lineHeight := by
      push_cast
      linarith only [hk.2, hmore]
    exact Nat.lt_succ_iff.1 (Nat.cast_lt.1 (lt_of_mul_lt_mul_right hk hline.le))
  · refine .inr ⟨Set.eq_empty_of_forall_notMem fun k ⟨hone, hk⟩ => one ?_, ?_⟩
    · have : (1 : Rat) ≤ k := Nat.one_le_cast.2 hone
      nlinarith only [hk, this, hline]
    · have hfloor : ⌊(p.rowBottom - y - p.rowPadding) / p.lineHeight⌋ < 1 := by
        rw [Int.floor_lt, Int.cast_one, div_lt_one hline]
        exact not_le.1 one
      change max 1 _ = 1
      omega

/-- A segment after which lines are left is filled. -/
theorem isFilled_of_left (hline : 0 < p.lineHeight) {s : Segment Rat} {lines : List String}
    {count : Int} (room : floorQuotient (p.rowBottom - s.y - p.rowPadding) p.lineHeight = .ok count)
    (taken : s.lines = lines.take (capacity count)) (left : lines.drop (capacity count) ≠ []) :
    s.IsFilled p := by
  rw [floorQuotient_rat hline.ne'] at room
  obtain rfl := Except.ok.inj room
  rw [ne_eq, List.drop_eq_nil_iff, not_le] at left
  rw [Segment.IsFilled, taken, List.length_take_of_le left.le]
  exact capacity_fits hline s.y

/-! ## Where a page is started -/

/-- The height at which the next mark goes below blocks of a table: below the last header band or
row segment. -/
inductive Ends (p : LayoutParams Rat) : List (Block Rat) → Rat → Prop
  | band (bs : List (Block Rat)) (y : Rat) : Ends p (bs ++ [.band y]) (y + p.headerHeight)
  | segment (bs : List (Block Rat)) (s : Segment Rat) : Ends p (bs ++ [.segment s]) s.bottom

/-- How the blocks of a row are broken below those that are above it. -/
structure IsBroken (p : LayoutParams Rat) (above row : List (Block Rat)) : Prop where
  /-- A page is started where the lines that are left of the row do not fit. -/
  newPage : ∀ before after, row = before ++ .newPage :: after →
    ∃ y, Ends p (above ++ before) y ∧
      p.rowBottom - y < max p.minRowHeight
        (((segments after).flatMap (·.lines)).length * p.lineHeight + p.rowPadding)
  /-- A segment starts right below what is above it, and is filled if lines are left after it. -/
  segment : ∀ before s after, row = before ++ .segment s :: after →
    Ends p (above ++ before) s.y ∧ ((segments after).flatMap (·.lines) ≠ [] → s.IsFilled p)

section Row

variable {x : Entry} {lines : List String} {c c' : Cursor Rat} {fresh isFirst : Bool}
  {above bs : List (Block Rat)}

theorem TableStart.ends {bottom : Rat} (start : TableStart p bottom c bs c') :
    Ends p bs c'.y := by
  cases start with
  | here => exact .band [] _
  | newPage => exact .band [.newPage] _

theorem ends_belowNextBand (above : List (Block Rat)) (c : Cursor Rat) :
    Ends p (above ++ [.newPage, .band p.pageTop]) (belowNextBand p c).y := by
  rw [List.append_cons]
  exact .band _ p.pageTop

theorem RowRun.ends {lineHeight : Rat}
    (run : RowRun p x lineHeight lines c fresh isFirst bs c') (ends : Ends p above c.y) :
    Ends p (above ++ bs) c'.y := by
  induction run generalizing above with
  | done => rwa [List.append_nil]
  | newPage _ _ _ ih =>
    have := ih (ends_belowNextBand above _)
    rwa [List.append_assoc] at this
  | @segment lines c _ isFirst count figures _ _ _ _ _ _ _ ih =>
    rw [List.append_cons]
    exact ih (.segment above (nextSegment p x lineHeight lines c.y isFirst count figures))

/-- A new page with a header band in front of blocks. -/
theorem IsBroken.newPage_band (broken : IsBroken p (above ++ [.newPage, .band p.pageTop]) bs)
    {y : Rat} (ends : Ends p above y)
    (tooHigh : p.rowBottom - y < max p.minRowHeight
      (((segments bs).flatMap (·.lines)).length * p.lineHeight + p.rowPadding)) :
    IsBroken p above (.newPage :: .band p.pageTop :: bs) where
  newPage := by
    rintro (- | ⟨b, - | ⟨b', before⟩⟩) after heq
    · obtain ⟨-, rfl⟩ := List.cons.inj heq
      exact ⟨y, by rwa [List.append_nil], tooHigh⟩
    · simp at heq
    · simp only [List.cons_append, List.cons.injEq] at heq
      obtain ⟨rfl, rfl, heq⟩ := heq
      have := broken.newPage before after heq
      rwa [List.append_assoc] at this
  segment := by
    rintro (- | ⟨b, - | ⟨b', before⟩⟩) s after heq
    · simp at heq
    · simp at heq
    · simp only [List.cons_append, List.cons.injEq] at heq
      obtain ⟨rfl, rfl, heq⟩ := heq
      have := broken.segment before s after heq
      rwa [List.append_assoc] at this

/-- A segment in front of blocks. -/
theorem IsBroken.cons_segment {s : Segment Rat} (broken : IsBroken p (above ++ [.segment s]) bs)
    (ends : Ends p above s.y)
    (filled : (segments bs).flatMap (·.lines) ≠ [] → s.IsFilled p) :
    IsBroken p above (.segment s :: bs) where
  newPage := by
    rintro (- | ⟨b, before⟩) after heq
    · simp at heq
    · simp only [List.cons_append, List.cons.injEq] at heq
      obtain ⟨rfl, heq⟩ := heq
      rw [List.append_cons]
      exact broken.newPage before after heq
  segment := by
    rintro (- | ⟨b, before⟩) s' after heq
    · simp only [List.nil_append, List.cons.injEq, Block.segment.injEq] at heq
      obtain ⟨rfl, rfl⟩ := heq
      exact ⟨by rwa [List.append_nil], filled⟩
    · simp only [List.cons_append, List.cons.injEq] at heq
      obtain ⟨rfl, heq⟩ := heq
      rw [List.append_cons]
      exact broken.segment before s' after heq

/-- A row is broken only where its lines do not fit, and its segments but the last are filled. -/
theorem RowRun.isBroken (hline : 0 < p.lineHeight)
    (run : RowRun p x p.lineHeight lines c fresh isFirst bs c') (ends : Ends p above c.y) :
    IsBroken p above bs := by
  -- every step adds its blocks to those above, at whose end its place is
  induction run generalizing above with
  | done => constructor <;> simp
  | @newPage lines c isFirst bs c' left tooHigh rest ih =>
    rw [lt_rat, decide_eq_true_eq, p.rowHeight_rat, ofCount_rat] at tooHigh
    refine (ih (ends_belowNextBand above c)).newPage_band ends ?_
    rwa [rest.flatMap_lines]
  | @segment lines c _ isFirst count figures _ _ left _ room _ rest ih =>
    refine (ih (.segment above _)).cons_segment ends fun more => ?_
    rw [rest.flatMap_lines] at more
    exact isFilled_of_left hline room rfl more

end Row

/-! ## The table of a document -/

theorem TableRun.exists_rows_isBroken (hline : 0 < p.lineHeight) {metrics : Metrics Rat}
    (canvas : metrics.IsCanvas) {xs : List Entry} {c c' : Cursor Rat} {fresh : Bool}
    {above bs : List (Block Rat)} (run : TableRun metrics p xs c fresh bs c')
    (ends : Ends p above c.y) :
    ∃ rows, bs = rows.flatten ∧ List.Forall₂ (IsRow metrics p) xs (rows.map segments) ∧
      ∀ before row after, rows = before ++ row :: after →
        IsBroken p (above ++ before.flatten) row := by
  induction run generalizing above with
  | done => exact ⟨[], rfl, .nil, by simp⟩
  | @row x xs c fresh lines lineHeight bs c₁ bs' c₂ wrapped measured row _ ih =>
    rw [canvas.textHeight_headD wrapped, p.linesHeight_one] at measured
    obtain rfl := Except.ok.inj measured
    obtain ⟨rows, rfl, hall, broken⟩ := ih (row.ends ends)
    refine ⟨bs :: rows, rfl, .cons (row.isRow wrapped (canvas.wrap_ne_nil wrapped)) hall, ?_⟩
    rintro (- | ⟨b, before⟩) row' after heq
    · obtain ⟨rfl, -⟩ := List.cons.inj heq
      simpa using row.isBroken hline ends
    · simp only [List.cons_append, List.cons.injEq] at heq
      obtain ⟨rfl, heq⟩ := heq
      have := broken before row' after heq
      rwa [List.append_assoc] at this

/-! ## The passes of the loop -/

/-- What a pass of the loop over the lines of a name does: it starts a page if the lines that are
left do not fit, or it draws a segment of the next lines. -/
inductive RowStep (p : LayoutParams Rat) (s : RowState Rat) : RowState Rat → Prop
  | newPage (tooHigh : p.rowBottom - s.place.y <
      max p.minRowHeight (s.lines.length * p.lineHeight + p.rowPadding)) :
      RowStep p s (s.onNewPage p)
  | segment {s' : RowState Rat} (segment : Segment Rat) (y_eq : segment.y = s.place.y)
      (lines_eq : s.lines = segment.lines ++ s'.lines)
      (marks_eq : s'.marks = s.marks ++ segment.marks p)
      (place_eq : s'.place = s.place.advance segment.height)
      (filled : s'.lines ≠ [] → segment.IsFilled p) : RowStep p s s'

theorem rowStep_of_rowPass (hline : 0 < p.lineHeight) {x : Entry} {s s' : RowState Rat}
    (h : rowPass p x p.lineHeight s = .ok s') : RowStep p s s' := by
  rw [rowPass] at h
  split at h
  case isTrue tooHigh =>
    simp only [RowState.isTooHigh, lt_rat, p.rowHeight_rat, ofCount_rat, Bool.and_eq_true,
      decide_eq_true_eq] at tooHigh
    obtain rfl := Except.ok.inj h
    exact .newPage tooHigh.1
  case isFalse =>
    simp only [segmentPass, bind_eq_ok, pure_eq_ok] at h
    obtain ⟨count, room, marks, hmarks, rfl⟩ := h
    obtain ⟨figures, -, rfl⟩ :=
      exists_figures_of_segmentMarks (s.lines.take (capacity count)) hmarks
    exact .segment _ rfl (List.take_append_drop ..).symm rfl rfl (isFilled_of_left hline room rfl)

/-- In exact arithmetic, a document whose texts can be made is drawn. The table of a document that
is drawn is broken only where the lines that are left of an entry do not fit, after segments of as
many lines as fit. Each pass of the loop that draws a row keeps to this, also if a later one
fails. -/
theorem rows_broken_of_render {metrics : Metrics Rat} (canvas : metrics.IsCanvas)
    (hfont : 0 < p.fontSize) (hline : 0 < p.lineHeight) (doc : Document) :
    (doc.IsPrintable → ∃ ms c, doc.render metrics p = .ok (ms, c)) ∧
    (∀ ms c, doc.render metrics p = .ok (ms, c) →
      ∃ header start bottom band top rows below closing,
        DrawnAs metrics p doc ms c (header ++ band ++ rows.flatten ++ closing) ∧
        HeaderRun metrics p doc header start bottom ∧ TableStart p bottom start band top ∧
        List.Forall₂ (IsRow metrics p) doc.entries (rows.map segments) ∧
        (∀ before row after, rows = before ++ row :: after →
          IsBroken p (band ++ before.flatten) row) ∧
        ClosingRun metrics p doc below closing c) ∧
    ∀ (x : Entry) (s s' : RowState Rat), rowPass p x p.lineHeight s = .ok s' → RowStep p s s' := by
  refine ⟨fun h => exists_render canvas h hfont.ne' hline.ne', fun ms c h => ?_,
    fun x s s' => rowStep_of_rowPass hline⟩
  obtain ⟨bs, rfl, run⟩ := exists_drawnAs h
  have hrun := run
  obtain ⟨headers, table, entries, ending⟩ := run
  obtain ⟨rows, rfl, hall, broken⟩ := entries.exists_rows_isBroken hline canvas table.ends
  exact ⟨_, _, _, _, _, rows, _, _, ⟨rfl, hrun⟩, headers, table, hall, broken, ending⟩

theorem rows_broken_of_tallSpecimen :
    0 < (.standard : LayoutParams Rat).fontSize ∧ 0 < (.standard : LayoutParams Rat).lineHeight ∧
    tallSpecimen.IsPrintable ∧
    ∃ ms c, tallSpecimen.render (.grid 595) .standard = .ok (ms, c) ∧
      ∃ header start bottom band top rows below closing,
        DrawnAs (.grid (595 : Rat)) .standard tallSpecimen ms c
          (header ++ band ++ rows.flatten ++ closing) ∧
        HeaderRun (.grid 595) .standard tallSpecimen header start bottom ∧
        TableStart .standard bottom start band top ∧
        List.Forall₂ (IsRow (.grid 595) .standard) tallSpecimen.entries (rows.map segments) ∧
        (∀ before row after, rows = before ++ row :: after →
          IsBroken .standard (band ++ before.flatten) row) ∧
        ClosingRun (.grid 595) .standard tallSpecimen below closing c := by
  have roomy := LayoutParams.standard_isRoomy
  obtain ⟨printable, drawn, -⟩ :=
    rows_broken_of_render (.grid 595) roomy.fontSize_pos roomy.lineHeight_pos tallSpecimen
  obtain ⟨ms, c, h⟩ := printable tallSpecimen_isPrintable
  exact ⟨roomy.fontSize_pos, roomy.lineHeight_pos, tallSpecimen_isPrintable, ms, c, h, drawn ms c h⟩

end Billing.Layout
