import Billing.Proofs.Drawing.Block

/-!
# How a table is drawn

The steps in which a table is drawn. While lines of an entry are left, either a new page with a
header band is started, or a row segment is drawn below what is there (`RowRun`); the entries follow
one another (`TableRun`).

* `exists_rowRun`, `exists_tableRun`: a table that was drawn took these steps, and its marks are
  those of the blocks that they lay down.
-/

namespace Billing.Layout

open Coordinate

variable {α : Type} [Coordinate α]

/-- The number of lines of a segment or a box for which there is room for `count`: at least one. -/
def capacity (count : Int) : Nat := max 1 count.toNat

theorem take_capacity_ne_nil {lines : List String} (left : lines ≠ []) (count : Int) :
    lines.take (capacity count) ≠ [] := by
  have : capacity count ≠ 0 := by
    unfold capacity
    omega
  simp [left, this]

/-- The segment at a height that holds the next lines of an entry's name. -/
def nextSegment (p : LayoutParams α) (x : Entry) (lineHeight : α) (lines : List String) (y : α)
    (isFirst : Bool) (count : Int) (figures : Option Figures) : Segment α where
  lines := lines.take (capacity count)
  text :=
    if isFirst && (lines.drop (capacity count)).isEmpty then x.name
    else Text.unlines (lines.take (capacity count))
  y
  height := p.rowHeight (ofCount (lines.take (capacity count)).length * lineHeight)
  figures

/-- The place below the header band of the next page. -/
def belowNextBand (p : LayoutParams α) (c : Cursor α) : Cursor α :=
  (c.nextPage p.pageTop).advance p.headerHeight

/-- The steps that draw what is left of an entry: its lines, the place, whether that is right below
a header band, and whether no line has been drawn yet. They lay down blocks and end at a place. -/
inductive RowRun (p : LayoutParams α) (x : Entry) (lineHeight : α) :
    List String → Cursor α → Bool → Bool → List (Block α) → Cursor α → Prop
  | done {c fresh isFirst} : RowRun p x lineHeight [] c fresh isFirst [] c
  /-- The lines do not fit below what is there. -/
  | newPage {lines c isFirst bs c'} (left : lines ≠ [])
      (tooHigh : lt (p.rowBottom - c.y) (p.rowHeight (ofCount lines.length * lineHeight)))
      (rest : RowRun p x lineHeight lines (belowNextBand p c) true isFirst bs c') :
      RowRun p x lineHeight lines c false isFirst (.newPage :: .band p.pageTop :: bs) c'
  /-- The lines fit, or a new page would not have more room. -/
  | segment {lines c fresh isFirst count figures bs c'} (left : lines ≠ [])
      (fits : fresh = true ∨
        lt (p.rowBottom - c.y) (p.rowHeight (ofCount lines.length * lineHeight)) = false)
      (room : floorQuotient (p.rowBottom - c.y - p.rowPadding) lineHeight = .ok count)
      (shown : figuresOn x isFirst = .ok figures)
      (rest : RowRun p x lineHeight (lines.drop (capacity count))
        (c.advance (nextSegment p x lineHeight lines c.y isFirst count figures).height) false false
        bs c') :
      RowRun p x lineHeight lines c fresh isFirst
        (.segment (nextSegment p x lineHeight lines c.y isFirst count figures) :: bs) c'

/-- The steps that draw entries one after the other. -/
inductive TableRun (metrics : Metrics α) (p : LayoutParams α) :
    List Entry → Cursor α → Bool → List (Block α) → Cursor α → Prop
  | done {c fresh} : TableRun metrics p [] c fresh [] c
  | row {x xs c fresh lines lineHeight bs c₁ bs' c₂}
      (wrapped : metrics.wrap x.name p.nameColumnWidth .gothic p.fontSize = .ok lines)
      (measured : metrics.textHeight (lines.headD "") none .gothic p.fontSize p.lineGap =
        .ok lineHeight)
      (row : RowRun p x lineHeight lines c fresh true bs c₁)
      (rest : TableRun metrics p xs c₁ false bs' c₂) :
      TableRun metrics p (x :: xs) c fresh (bs ++ bs') c₂

theorem RowRun.exists_segment {p : LayoutParams α} {x : Entry} {lineHeight : α}
    {lines : List String} {c c' : Cursor α} {fresh isFirst : Bool} {count : Int} {height : α}
    {segment rest : List (Mark α)} (left : lines ≠ [])
    (fits : fresh = true ∨
      lt (p.rowBottom - c.y) (p.rowHeight (ofCount lines.length * lineHeight)) = false)
    (room : floorQuotient (p.rowBottom - c.y - p.rowPadding) lineHeight = .ok count)
    (hheight : height = p.rowHeight (ofCount (lines.take (capacity count)).length * lineHeight))
    (hsegment : segmentMarks p x (if isFirst && (lines.drop (capacity count)).isEmpty then x.name
      else Text.unlines (lines.take (capacity count))) c.y height isFirst = .ok segment)
    (hrest : ∃ bs, rest = drawing p bs ∧
      RowRun p x lineHeight (lines.drop (capacity count)) (c.advance height) false false bs c') :
    ∃ bs, segment ++ rest = drawing p bs ∧ RowRun p x lineHeight lines c fresh isFirst bs c' := by
  subst hheight
  obtain ⟨figures, shown, rfl⟩ :=
    exists_figures_of_segmentMarks (lines.take (capacity count)) hsegment
  obtain ⟨bs, rfl, run⟩ := hrest
  exact ⟨_, rfl, .segment left fits room shown run⟩

theorem exists_rowRun {p : LayoutParams α} {x : Entry} {lineHeight : α} {lines : List String}
    {c c' : Cursor α} {fresh isFirst : Bool} {ms : List (Mark α)}
    (h : drawSegments p x lineHeight lines c fresh isFirst = .ok (ms, c')) :
    ∃ bs, ms = drawing p bs ∧ RowRun p x lineHeight lines c fresh isFirst bs c' := by
  induction lines, c, fresh, isFirst using drawSegments.induct p lineHeight generalizing ms with
  | case1 c fresh isFirst =>
    simp only [drawSegments, ↓reduceDIte, Except.ok.injEq, Prod.mk.injEq] at h
    obtain ⟨rfl, rfl⟩ := h
    exact ⟨[], rfl, .done⟩
  | case2 lines c fresh isFirst left tooHigh broken c₁ hbroken =>
    rename_i ih
    simp only [tooHigh, dite_eq_ite] at hbroken
    rw [drawSegments, dif_neg left] at h
    simp only [hbroken, bind_eq_ok, pure_eq_ok, Prod.exists, Prod.mk.injEq] at h
    obtain ⟨count, room, segment, hsegment, rest, _, hrest, rfl, rfl⟩ := h
    split at hbroken
    · -- a new page with a header band comes before the segment
      rename_i hhigh
      simp only [Bool.and_eq_true, Bool.not_eq_true'] at hhigh
      obtain ⟨hhigh, rfl⟩ := hhigh
      obtain ⟨rfl, rfl⟩ := Prod.mk.inj hbroken.symm
      obtain ⟨bs, hbs, run⟩ :=
        RowRun.exists_segment left (.inl rfl) room rfl hsegment (ih count hrest)
      refine ⟨.newPage :: .band p.pageTop :: bs, ?_, .newPage left hhigh run⟩
      rw [List.append_assoc, hbs]
      rfl
    · rename_i fits
      obtain ⟨rfl, rfl⟩ := Prod.mk.inj hbroken
      have fits : fresh = true ∨
          lt (p.rowBottom - c.y) (p.rowHeight (ofCount lines.length * lineHeight)) = false := by
        cases fresh <;> simp_all
      rw [List.nil_append]
      exact RowRun.exists_segment left fits room rfl hsegment (ih count hrest)

theorem exists_tableRun {metrics : Metrics α} {p : LayoutParams α} {xs : List Entry}
    {c c' : Cursor α} {fresh : Bool} {ms : List (Mark α)}
    (h : drawRows metrics p xs c fresh = .ok (ms, c')) :
    ∃ bs, ms = drawing p bs ∧ TableRun metrics p xs c fresh bs c' := by
  induction xs generalizing c fresh ms with
  | nil =>
    simp only [drawRows, Except.ok.injEq, Prod.mk.injEq] at h
    obtain ⟨rfl, rfl⟩ := h
    exact ⟨[], rfl, .done⟩
  | cons x xs ih =>
    simp only [drawRows, drawRow, bind_eq_ok, pure_eq_ok, Prod.exists, Prod.mk.injEq] at h
    obtain ⟨row, c₁, ⟨lines, wrapped, lineHeight, measured, hrow⟩, rest, _, hrest, rfl, rfl⟩ := h
    obtain ⟨bs, rfl, run⟩ := exists_rowRun hrow
    obtain ⟨bs', rfl, rest⟩ := ih hrest
    exact ⟨bs ++ bs', (drawing_append p bs bs').symm, .row wrapped measured run rest⟩

theorem RowRun.isTable {p : LayoutParams α} {x : Entry} {lineHeight : α} {lines : List String}
    {c c' : Cursor α} {fresh isFirst : Bool} {bs : List (Block α)}
    (run : RowRun p x lineHeight lines c fresh isFirst bs c') : ∀ b ∈ bs, b.isTable := by
  induction run with
  | done => simp
  | newPage _ _ _ ih => simpa [Block.isTable] using ih
  | segment _ _ _ _ _ ih => simpa [Block.isTable] using ih

theorem TableRun.isTable {metrics : Metrics α} {p : LayoutParams α} {xs : List Entry}
    {c c' : Cursor α} {fresh : Bool} {bs : List (Block α)}
    (run : TableRun metrics p xs c fresh bs c') : ∀ b ∈ bs, b.isTable := by
  induction run with
  | done => simp
  | row _ _ row _ ih => exact List.forall_mem_append.2 ⟨row.isTable, ih⟩

end Billing.Layout
