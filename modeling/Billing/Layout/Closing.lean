import Billing.Layout.Table

/-!
# The end of a document

Below the table stand the subtotal, the tax and the total, and then the remarks in a box. Summary
and remarks start on the same page; remarks that do not fit go on in a box on the next page
(`drawBoxes`).
-/

namespace Billing.Layout

open Coordinate

variable {α : Type} [Coordinate α]

/-- How remarks are set: the usual ones smaller and in grey. -/
def remarksStyle (doc : Document) : TextStyle α :=
  if doc.remarksAreDefault then { size := pt 8, color := "#666666", lineGap := pt 5 }
  else { size := pt 9, lineGap := pt 2 }

/-- The title of the first box of remarks. -/
def remarksTitle : String := "備  考"

/-- The title of the further boxes of remarks. -/
def continuedTitle : String := "備  考（続き）"

/-- A box of remarks. -/
def boxMarks (p : LayoutParams α) (style : TextStyle α) (title text : String) (y height : α) :
    List (Mark α) :=
  let width := p.contentWidth - pt 20
  [.rect p.marginLeft y p.contentWidth height (some "black") none (pt (1 / 2)),
    .text title (p.marginLeft + pt 10) (y + pt 5) (.plain 9),
    .text text (p.marginLeft + pt 10) (y + pt 20) { style with width := some width }]

/-- The boxes that hold the lines of remarks from the place on, each `lineHeight` high. A box that
would hold no line starts on a new page, unless the place is at the top of a page already. Then as
many lines as fit, but at least one, are in the box. `whole` is the text of a single box. -/
def drawBoxes (p : LayoutParams α) (style : TextStyle α) (whole : String) (lineHeight : α)
    (lines : List String) (c : Cursor α) (isFirst : Bool) :
    Except Fault (List (Mark α) × Cursor α) :=
  if _h : lines = [] then .ok ([], c)
  else do
    let count ← floorQuotient (p.blockBottom - c.y - pt 25) lineHeight
    let tooLow := count < 1 && lt p.pageTop c.y
    let (broken, c) : List (Mark α) × Cursor α :=
      if tooLow then ([.newPage], c.nextPage p.pageTop) else ([], c)
    let room := p.blockBottom - c.y
    let count ← floorQuotient (room - pt 25) lineHeight
    let capacity := max 1 count.toNat
    let chunk := lines.take capacity
    let rest := lines.drop capacity
    let text := if isFirst && rest.isEmpty then whole else Text.unlines chunk
    let height :=
      greater (ofCount chunk.length * lineHeight + pt 25) (smaller p.remarksBoxHeight room)
    let box := boxMarks p style (if isFirst then remarksTitle else continuedTitle) text c.y height
    let c := c.advance height
    let (next, c) : List (Mark α) × Cursor α :=
      if rest.isEmpty then ([], c) else ([.newPage], c.nextPage p.pageTop)
    let (marks, c) ← drawBoxes p style whole lineHeight rest c false
    return (broken ++ box ++ next ++ marks, c)
termination_by lines.length
decreasing_by
  have := List.length_pos_iff.2 _h
  simp only [List.length_drop]
  omega

/-- The remarks of a document. -/
def drawRemarks (metrics : Metrics α) (p : LayoutParams α) (doc : Document) (c : Cursor α) :
    Except Fault (List (Mark α) × Cursor α) := do
  let style := remarksStyle doc
  let width := p.contentWidth - pt 20
  let lines ← metrics.wrap doc.remarks (some width) .gothic style.size
  let lineHeight ← metrics.textHeight (lines.headD "") none .gothic style.size style.lineGap
  drawBoxes p style doc.remarks lineHeight lines c true

/-- A row of the summary, above its rule. -/
def summaryRow (p : LayoutParams α) (label figure : String) (y : α) : List (Mark α) :=
  [tableText p label (pt 300) y, tableText p figure (pt 470) y,
    rule (pt 280) (y + pt 15) p.right (y + pt 15) (1 / 2)]

/-- The total, above its double rule. -/
def totalRow (p : LayoutParams α) (figure : String) (y : α) : List (Mark α) :=
  let style : TextStyle α := { typeface := .mincho, size := pt 12, lineGap := pt 0 }
  [.text "合  計" (pt 300) (y + pt 5) style, .text figure (pt 470) (y + pt 5) style,
    rule (pt 280) (y + pt 25) p.right (y + pt 25) (1 / 2),
    rule (pt 280) (y + pt 28) p.right (y + pt 28) (1 / 2)]

/-- The three rows of the summary, and the place of the last. -/
def drawSummary (p : LayoutParams α) (doc : Document) (c : Cursor α) :
    Except Fault (List (Mark α) × Cursor α) := do
  let taxLabel ← taxLabel doc.taxRate
  let subtotal ← yen doc.subtotal
  let tax ← yen doc.tax
  let total ← yen doc.grandTotal
  let taxRow := c.advance p.summaryRowHeight
  let last := taxRow.advance p.summaryRowHeight
  return (summaryRow p "小  計" subtotal c.y ++ summaryRow p taxLabel tax taxRow.y ++
    totalRow p total last.y, last)

/-- The summary and the remarks, on a new page where too little is left of this one for the summary
and a box of the usual height. -/
def drawClosing (metrics : Metrics α) (p : LayoutParams α) (doc : Document) (c : Cursor α) :
    Except Fault (List (Mark α) × Cursor α) := do
  let needed := p.summaryGap + pt 2 * p.summaryRowHeight + p.remarksGap + p.remarksBoxHeight
  let (broken, c) : List (Mark α) × Cursor α :=
    if c.fits needed p.blockBottom then ([], c) else ([.newPage], c.nextPage p.pageTop)
  let (summary, c) ← drawSummary p doc (c.advance p.summaryGap)
  let (remarks, c) ← drawRemarks metrics p doc (c.advance p.remarksGap)
  return (broken ++ summary ++ remarks, c)

end Billing.Layout
