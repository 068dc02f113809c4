import Billing.Layout.Header

/-!
# The table of entries

A header band, then one row an entry. A row that does not fit on its page goes to the next one,
under a header band of its own; a name that is too long for any page is divided into several row
segments (`drawSegments`), of which the first carries the figures.
-/

namespace Billing.Layout

open Coordinate

variable {α : Type} [Coordinate α]

/-- The labels of the columns. -/
def headerLabels (p : LayoutParams α) : List (String × α) :=
  [("品  名  ・  規  格", p.nameX), ("数  量", p.quantityX), ("単  価", p.priceX),
    ("金  額", p.amountX)]

/-- A text of the table. -/
def tableText (p : LayoutParams α) (s : String) (x y : α) : Mark α :=
  .text s x y { size := p.fontSize, lineGap := pt 0 }

/-- The header band with its labels. -/
def headerMarks (p : LayoutParams α) (y : α) : List (Mark α) :=
  .rect p.marginLeft y p.contentWidth p.headerHeight (some "black") (some "#f0f0f0") (pt (1 / 2)) ::
    (headerLabels p).map fun (label, x) => tableText p label x (y + pt 6)

/-- The header band and the place below it. -/
def drawTableHeader (p : LayoutParams α) (c : Cursor α) : List (Mark α) × Cursor α :=
  (headerMarks p c.y, c.advance p.headerHeight)

/-- A new page with a header band, and the place below the band. -/
def continueTable (p : LayoutParams α) (c : Cursor α) : List (Mark α) × Cursor α :=
  let (marks, c) := drawTableHeader p (c.nextPage p.pageTop)
  (.newPage :: marks, c)

/-- The start of the table below the header blocks, or on a new page where too little is left of
the first. -/
def startTable (p : LayoutParams α) (previousBottom : α) (c : Cursor α) :
    List (Mark α) × Cursor α :=
  let top := p.tableTop previousBottom
  let c : Cursor α := ⟨c.page, top⟩
  if lt p.tableStartLimit top || !c.fits (p.headerHeight + p.minRowHeight) p.rowBottom then
    continueTable p c
  else drawTableHeader p c

/-- The figures of an entry: a derived one shows its amount only. -/
def figureMarks (p : LayoutParams α) (x : Entry) (y : α) : Except Fault (List (Mark α)) := do
  let quantity :=
    if x.quantityHidden then [] else [tableText p (quantityText x) p.quantityX y]
  let price ← if x.unitPriceHidden then pure [] else do
    pure [tableText p (← yen x.unitPrice) p.priceX y]
  return quantity ++ price ++ [tableText p (← yen x.amount) p.amountX y]

/-- A row segment of a height: the rule below it, its part of the name, and the figures if it is the
entry's first. -/
def segmentMarks (p : LayoutParams α) (x : Entry) (name : String) (y height : α)
    (isFirst : Bool) : Except Fault (List (Mark α)) := do
  let bottom := y + height
  let style : TextStyle α :=
    { size := p.fontSize, width := p.nameColumnWidth, lineGap := p.lineGap }
  let figures ← if isFirst then figureMarks p x (y + pt 8) else pure []
  return .line p.marginLeft bottom p.right bottom "#cccccc" (pt (1 / 2)) ::
    .text name p.nameX (y + pt 8) style :: figures

/-- The row segments that hold the lines of a name from the place on, each `lineHeight` high. If
the lines do not fit, they start on a new page, unless the place is right below a header band
(`fresh`) already. Then as many lines as fit, but at least one, make a segment. -/
def drawSegments (p : LayoutParams α) (x : Entry) (lineHeight : α) (lines : List String)
    (c : Cursor α) (fresh isFirst : Bool) : Except Fault (List (Mark α) × Cursor α) :=
  if _h : lines = [] then .ok ([], c)
  else do
    let tooHigh :=
      lt (p.rowBottom - c.y) (p.rowHeight (ofCount lines.length * lineHeight)) && !fresh
    let (broken, c) := if tooHigh then continueTable p c else ([], c)
    let room := p.rowBottom - c.y
    let count ← floorQuotient (room - p.rowPadding) lineHeight
    let capacity := max 1 count.toNat
    let chunk := lines.take capacity
    let rest := lines.drop capacity
    let height := p.rowHeight (ofCount chunk.length * lineHeight)
    let name := if isFirst && rest.isEmpty then x.name else Text.unlines chunk
    let segment ← segmentMarks p x name c.y height isFirst
    let (marks, c) ← drawSegments p x lineHeight rest (c.advance height) false false
    return (broken ++ segment ++ marks, c)
termination_by lines.length
decreasing_by
  have := List.length_pos_iff.2 _h
  simp only [List.length_drop]
  omega

/-- The row of an entry. -/
def drawRow (metrics : Metrics α) (p : LayoutParams α) (x : Entry) (c : Cursor α) (fresh : Bool) :
    Except Fault (List (Mark α) × Cursor α) := do
  let lines ← metrics.wrap x.name p.nameColumnWidth .gothic p.fontSize
  let lineHeight ← metrics.textHeight (lines.headD "") none .gothic p.fontSize p.lineGap
  drawSegments p x lineHeight lines c fresh true

/-- The rows of entries, the first one right below a header band if `fresh`. -/
def drawRows (metrics : Metrics α) (p : LayoutParams α) :
    List Entry → Cursor α → Bool → Except Fault (List (Mark α) × Cursor α)
  | [], c, _ => .ok ([], c)
  | x :: rest, c, fresh => do
    let (row, c) ← drawRow metrics p x c fresh
    let (rows, c) ← drawRows metrics p rest c false
    return (row ++ rows, c)

end Billing.Layout
