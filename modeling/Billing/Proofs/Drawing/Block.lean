import Billing.Layout.Render
import Billing.Proofs.Outcome

/-!
# Blocks of a drawing

What the marks of a document are drawn for. A drawing is a list of blocks (`Block`): header blocks,
header bands of the table, row segments, the summary and boxes of remarks, and the places where a
new page starts. Each block draws marks of its own (`Block.marks`).

* `Block.IsDistinct`: what its marks look like tells row segments, header bands and new pages from
  everything else.
* `figureMarks_eq`, `exists_figures_of_segmentMarks`: the marks of figures and segments.
* `countP_isRowRule_drawing`: the number of row segments.
-/

namespace Billing

/-- The figures of an entry, a text for each column. -/
structure Figures where
  quantity : Option String
  price : Option String
  amount : String

/-- The figures that an entry shows. -/
def Entry.figures (x : Entry) : Except Fault Figures := do
  let price ← if x.unitPriceHidden then pure none else some <$> yen x.unitPrice
  let amount ← yen x.amount
  return { quantity := if x.quantityHidden then none else some (quantityText x), price, amount }

namespace Layout

open Coordinate

variable {α : Type} [Coordinate α]

/-- The figures at a height, each in its column. -/
def figuresMarks (p : LayoutParams α) (y : α) (f : Figures) : List (Mark α) :=
  (f.quantity.map (tableText p · p.quantityX y)).toList ++
    (f.price.map (tableText p · p.priceX y)).toList ++ [tableText p f.amount p.amountX y]

/-- A row segment. -/
structure Segment (α : Type) where
  /-- The lines of the name that the segment holds. -/
  lines : List String
  /-- The text that is drawn for them. -/
  text : String
  y : α
  height : α
  figures : Option Figures

namespace Segment

def bottom (s : Segment α) : α := s.y + s.height

/-- The rule below the segment, the text and the figures if there are any. -/
def marks (p : LayoutParams α) (s : Segment α) : List (Mark α) :=
  let style : TextStyle α :=
    { size := p.fontSize, width := p.nameColumnWidth, lineGap := p.lineGap }
  .line p.marginLeft s.bottom p.right s.bottom "#cccccc" (pt (1 / 2)) ::
    .text s.text p.nameX (s.y + pt 8) style ::
      (s.figures.map (figuresMarks p (s.y + pt 8))).getD []

end Segment

/-- The summary: its figures, the label of the tax, and the height of its first row. -/
structure Totals (α : Type) where
  subtotal : String
  taxLabel : String
  tax : String
  total : String
  y : α

/-- The three rows of a summary. -/
def Totals.marks (p : LayoutParams α) (t : Totals α) : List (Mark α) :=
  let taxY := t.y + p.summaryRowHeight
  summaryRow p "小  計" t.subtotal t.y ++ summaryRow p t.taxLabel t.tax taxY ++
    totalRow p t.total (taxY + p.summaryRowHeight)

/-- A box of remarks. -/
structure RemarksBox (α : Type) where
  /-- The lines of the remarks that the box holds. -/
  lines : List String
  title : String
  /-- The text that is drawn for the lines. -/
  text : String
  style : TextStyle α
  y : α
  height : α

/-- The parts of a document above its table. -/
inductive HeaderPart where
  | title
  | date
  | client
  | issuer
  deriving DecidableEq

/-- What marks are drawn for. -/
inductive Block (α : Type) where
  | newPage
  | header (part : HeaderPart) (marks : List (Mark α))
  /-- The header band of the table, with the labels of the columns. -/
  | band (y : α)
  | segment (s : Segment α)
  | summary (t : Totals α)
  | remarks (b : RemarksBox α)

namespace Block

/-- The marks that are drawn for a block. -/
def marks (p : LayoutParams α) : Block α → List (Mark α)
  | newPage => [.newPage]
  | header _ marks => marks
  | band y => headerMarks p y
  | segment s => s.marks p
  | summary t => t.marks p
  | remarks b => boxMarks p b.style b.title b.text b.y b.height

/-- The row segment that a block is. -/
def segment? : Block α → Option (Segment α)
  | segment s => some s
  | _ => none

/-- The summary that a block is. -/
def summary? : Block α → Option (Totals α)
  | summary t => some t
  | _ => none

def isNewPage : Block α → Bool
  | newPage => true
  | _ => false

def isHeader : Block α → Bool
  | header .. => true
  | _ => false

def isBand : Block α → Bool
  | band _ => true
  | _ => false

def isSegment (b : Block α) : Bool := b.segment?.isSome

def isSummary (b : Block α) : Bool := b.summary?.isSome

/-- Whether the block belongs to the table or starts a page. -/
def isTable : Block α → Bool
  | newPage | band _ | segment _ => true
  | _ => false

/-- Whether the block belongs to the closing or starts a page. -/
def isClosing : Block α → Bool
  | newPage | summary _ | remarks _ => true
  | _ => false

omit [Coordinate α] in
theorem isHeader_of_isTable {b : Block α} (h : b.isTable) : b.isHeader = false := by
  cases b <;> simp_all [isTable, isHeader]

omit [Coordinate α] in
theorem isSummary_of_isTable {b : Block α} (h : b.isTable) : b.isSummary = false := by
  cases b <;> simp_all [isTable, isSummary, summary?]

omit [Coordinate α] in
theorem of_isClosing {b : Block α} (h : b.isClosing) :
    b.isHeader = false ∧ b.isBand = false ∧ b.isSegment = false := by
  cases b <;> simp_all [isClosing, isHeader, isBand, isSegment, segment?]

omit [Coordinate α] in
theorem of_isHeader {b : Block α} (h : b.isHeader) :
    b.isNewPage = false ∧ b.isBand = false ∧ b.isSegment = false ∧ b.isSummary = false := by
  cases b <;> simp_all [isHeader, isNewPage, isBand, isSegment, segment?, isSummary, summary?]

end Block

/-- The marks of blocks in drawing order. -/
def drawing (p : LayoutParams α) (bs : List (Block α)) : List (Mark α) := bs.flatMap (·.marks p)

/-- The row segments among blocks. -/
def segments (bs : List (Block α)) : List (Segment α) := bs.filterMap (·.segment?)

/-- The summaries among blocks. -/
def summaries (bs : List (Block α)) : List (Totals α) := bs.filterMap (·.summary?)

end Layout

namespace Mark

variable {α : Type}

/-- Whether the mark is a rule below a row segment, which is the only line of its colour. -/
def isRowRule : Mark α → Bool
  | line _ _ _ _ color _ => color = "#cccccc"
  | _ => false

/-- Whether the mark is the ground of a header band, which is the only rectangle that is filled. -/
def isGround : Mark α → Bool
  | rect _ _ _ _ _ fill _ => fill.isSome
  | _ => false

end Mark

namespace Layout

variable {α : Type} [Coordinate α]

/-- The look of its marks tells what a block is: a rule below a row is drawn for a row segment, a
ground for a header band, and only a new page starts one. -/
def Block.IsDistinct (p : LayoutParams α) (b : Block α) : Prop :=
  ∀ m ∈ b.marks p, (m.isRowRule → b.isSegment) ∧ (m.isGround → b.isBand) ∧
    (m.isNewPage → b.isNewPage)

@[simp] theorem drawing_nil (p : LayoutParams α) : drawing p [] = [] := rfl

@[simp] theorem drawing_cons (p : LayoutParams α) (b : Block α) (bs : List (Block α)) :
    drawing p (b :: bs) = b.marks p ++ drawing p bs := rfl

@[simp] theorem drawing_append (p : LayoutParams α) (bs bs' : List (Block α)) :
    drawing p (bs ++ bs') = drawing p bs ++ drawing p bs' := List.flatMap_append

omit [Coordinate α] in
@[simp] theorem segments_nil : segments ([] : List (Block α)) = [] := rfl

omit [Coordinate α] in
@[simp] theorem segments_cons_segment (s : Segment α) (bs : List (Block α)) :
    segments (.segment s :: bs) = s :: segments bs := rfl

omit [Coordinate α] in
theorem segments_eq_nil_iff {bs : List (Block α)} :
    segments bs = [] ↔ ∀ b ∈ bs, b.isSegment = false := by
  simp [segments, Block.isSegment]

omit [Coordinate α] in
theorem segments_eq_nil {bs : List (Block α)} (h : ∀ b ∈ bs, b.isSegment = false) :
    segments bs = [] := segments_eq_nil_iff.2 h

omit [Coordinate α] in
@[simp] theorem segments_append (bs bs' : List (Block α)) :
    segments (bs ++ bs') = segments bs ++ segments bs' := List.filterMap_append

omit [Coordinate α] in
theorem summaries_eq_nil {bs : List (Block α)} (h : ∀ b ∈ bs, b.isSummary = false) :
    summaries bs = [] := by
  simpa [summaries, Block.isSummary] using h

omit [Coordinate α] in
@[simp] theorem summaries_append (bs bs' : List (Block α)) :
    summaries (bs ++ bs') = summaries bs ++ summaries bs' := List.filterMap_append

/-! ## The marks of segments -/

theorem figureMarks_eq (p : LayoutParams α) (x : Entry) (y : α) :
    figureMarks p x y = x.figures.map (figuresMarks p y) := by
  unfold figureMarks Entry.figures
  cases x.unitPriceHidden <;> cases x.quantityHidden <;> cases yen x.unitPrice <;>
    cases yen x.amount <;> rfl

/-- The figures of the first segment of an entry, and none for the others. -/
def figuresOn (x : Entry) (isFirst : Bool) : Except Fault (Option Figures) :=
  if isFirst then some <$> x.figures else pure none

theorem exists_figures_of_segmentMarks {p : LayoutParams α} {x : Entry} {text : String}
    {y height : α} {isFirst : Bool} {ms : List (Mark α)} (lines : List String)
    (h : segmentMarks p x text y height isFirst = .ok ms) :
    ∃ figures, figuresOn x isFirst = .ok figures ∧
      ms = Segment.marks p ⟨lines, text, y, height, figures⟩ := by
  cases isFirst with
  | false =>
    simp only [segmentMarks, Bool.false_eq_true, ↓reduceIte, bind_eq_ok, pure_eq_ok,
      exists_eq_left'] at h
    exact ⟨none, rfl, h.symm⟩
  | true =>
    simp only [segmentMarks, ↓reduceIte, figureMarks_eq, bind_eq_ok, exceptMap_eq_ok,
      pure_eq_ok] at h
    obtain ⟨_, ⟨f, hf, rfl⟩, rfl⟩ := h
    exact ⟨some f, by simp [figuresOn, hf], rfl⟩

/-! ## Telling blocks apart -/

/-- Whether the mark is no rule below a row, no ground of a header band and no new page. -/
def IsOrdinary (m : Mark α) : Prop :=
  m.isRowRule = false ∧ m.isGround = false ∧ m.isNewPage = false

/-- Whether the mark is a text or a line in black, or a seal. -/
inductive IsInk : Mark α → Prop
  | text (s : String) (x y : α) {style : TextStyle α} (hblack : style.color = "black") :
    IsInk (.text s x y style)
  | line (x₁ y₁ x₂ y₂ : α) (lineWidth : Rat) : IsInk (rule x₁ y₁ x₂ y₂ lineWidth)
  | seal (x y : α) (columns : List String) (size : α) : IsInk (.seal x y columns size)

theorem IsInk.isOrdinary {m : Mark α} (h : IsInk m) : IsOrdinary m := by
  cases h with
  | line => exact ⟨by simp [rule, Mark.isRowRule], rfl, rfl⟩
  | _ => exact ⟨rfl, rfl, rfl⟩

theorem isInk_tableText (p : LayoutParams α) (s : String) (x y : α) : IsInk (tableText p s x y) :=
  .text _ _ _ rfl

theorem Block.isDistinct_of_isOrdinary {p : LayoutParams α} {b : Block α}
    (h : ∀ m ∈ b.marks p, IsOrdinary m) : b.IsDistinct p := by
  intro m hm
  obtain ⟨h₁, h₂, h₃⟩ := h m hm
  simp [h₁, h₂, h₃]

theorem Totals.isInk (p : LayoutParams α) (t : Totals α) : ∀ m ∈ t.marks p, IsInk m := by
  simp [Totals.marks, summaryRow, totalRow, isInk_tableText, IsInk.line, IsInk.text]

theorem isInk_figuresMarks (p : LayoutParams α) (y : α) (f : Figures) :
    ∀ m ∈ figuresMarks p y f, IsInk m := by
  intro m hm
  simp only [figuresMarks, List.mem_append, Option.mem_toList, Option.map_eq_some_iff,
    List.mem_singleton] at hm
  obtain (⟨_, -, rfl⟩ | ⟨_, -, rfl⟩) | rfl := hm <;> exact isInk_tableText ..

/-- The figures of a segment, if it shows some. -/
theorem Segment.isInk_figures (p : LayoutParams α) (s : Segment α) :
    ∀ m ∈ (s.figures.map (figuresMarks p (s.y + pt 8))).getD [], IsInk m := by
  cases s.figures with
  | none => simp
  | some f => exact isInk_figuresMarks p _ f

theorem Block.isDistinct_of_isHeader {p : LayoutParams α} {b : Block α}
    (h : b.isHeader = false) : b.IsDistinct p := by
  cases b with
  | newPage => simp [IsDistinct, marks, Mark.isRowRule, Mark.isGround, isNewPage]
  | header => simp [isHeader] at h
  | band y =>
    -- the ground, then the labels of the columns
    intro m hm
    simp only [marks, headerMarks, List.mem_cons, List.mem_map] at hm
    obtain rfl | ⟨_, -, rfl⟩ := hm
    · simp [Mark.isRowRule, Mark.isNewPage, isBand]
    · simp [tableText, Mark.isRowRule, Mark.isNewPage, Mark.isGround]
  | segment s =>
    -- the rule, then texts
    intro m hm
    refine ⟨fun _ => rfl, ?_⟩
    simp only [marks, Segment.marks, List.mem_cons] at hm
    obtain rfl | rfl | hm := hm
    · simp [Mark.isGround, Mark.isNewPage]
    · simp [Mark.isGround, Mark.isNewPage]
    · simp [(s.isInk_figures p m hm).isOrdinary.2]
  | summary t => exact isDistinct_of_isOrdinary fun m hm => (t.isInk p m hm).isOrdinary
  | remarks b =>
    intro m hm
    simp only [marks, boxMarks, List.mem_cons, List.not_mem_nil, or_false] at hm
    obtain rfl | rfl | rfl := hm <;> simp [Mark.isRowRule, Mark.isNewPage, Mark.isGround]

theorem Segment.countP_isRowRule (p : LayoutParams α) (s : Segment α) :
    (s.marks p).countP (·.isRowRule) = 1 := by
  have hfigures : ∀ m ∈ (s.figures.map (figuresMarks p (s.y + pt 8))).getD [],
      ¬ m.isRowRule = true := by
    intro m hm
    simp [(s.isInk_figures p m hm).isOrdinary.1]
  rw [marks, List.countP_cons, List.countP_cons, List.countP_eq_zero.2 hfigures]
  simp [Mark.isRowRule]

/-- There are as many rules below rows as row segments. -/
theorem countP_isRowRule_drawing {p : LayoutParams α} {bs : List (Block α)}
    (hdistinct : ∀ b ∈ bs, b.IsDistinct p) :
    (drawing p bs).countP (·.isRowRule) = (segments bs).length := by
  induction bs with
  | nil => rfl
  | cons b bs ih =>
    obtain ⟨hb, hbs⟩ := List.forall_mem_cons.1 hdistinct
    rw [drawing_cons, List.countP_append, ih hbs]
    cases hs : b.segment? with
    | none =>
      have : (b.marks p).countP (·.isRowRule) = 0 := by
        refine List.countP_eq_zero.2 fun m hm hrule => ?_
        simpa [Block.isSegment, hs] using (hb m hm).1 hrule
      rw [this, segments, segments, List.filterMap_cons_none hs, Nat.zero_add]
    | some s =>
      obtain rfl : b = .segment s := by cases b <;> simp_all [Block.segment?]
      rw [segments_cons_segment, List.length_cons, Nat.add_comm]
      exact congrArg (_ + ·) (s.countP_isRowRule p)

end Layout

end Billing
