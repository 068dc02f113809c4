import Billing.Layout.Coordinate

/-!
# Measures of a layout

The lengths and limits that a layout is made from (`LayoutParams`), and the place where the next
mark goes (`Cursor`): a page, counted from one, and a height below its top edge.
-/

namespace Billing

open Coordinate

/-- The lengths and limits of a layout, in points from the left and the top edge. -/
structure LayoutParams (α : Type) where
  marginLeft : α
  contentWidth : α
  /-- The highest place of the table. -/
  minTableTop : α
  /-- The gap between the header blocks and the table. -/
  tableGap : α
  /-- A table that would start below this starts on a new page. -/
  tableStartLimit : α
  /-- The lowest end of a row. -/
  rowBottom : α
  /-- The lowest end of the summary and the remarks. -/
  blockBottom : α
  /-- Where later pages start. -/
  pageTop : α
  minRowHeight : α
  rowPadding : α
  headerHeight : α
  /-- The width to which names are wrapped; names are not wrapped without one. -/
  nameColumnWidth : Option α
  fontSize : α
  lineGap : α
  summaryGap : α
  summaryRowHeight : α
  remarksGap : α
  remarksBoxHeight : α

namespace LayoutParams

variable {α : Type} [Coordinate α]

/-- The usual measures. -/
def standard : LayoutParams α where
  marginLeft := pt 40
  contentWidth := pt 515
  minTableTop := pt 280
  tableGap := pt 40
  tableStartLimit := pt 600
  rowBottom := pt 700
  blockBottom := pt 780
  pageTop := pt 50
  minRowHeight := pt 30
  rowPadding := pt 16
  headerHeight := pt 20
  nameColumnWidth := some (pt 250)
  fontSize := pt 10
  lineGap := pt 2
  summaryGap := pt 20
  summaryRowHeight := pt 25
  remarksGap := pt 40
  remarksBoxHeight := pt 80

/-- The right edge of the content. -/
def right (p : LayoutParams α) : α := p.marginLeft + p.contentWidth

/-- The left edges of the columns of the table. -/
def nameX (p : LayoutParams α) : α := p.marginLeft + pt 10

def quantityX (p : LayoutParams α) : α := p.marginLeft + pt 260

def priceX (p : LayoutParams α) : α := p.marginLeft + pt 340

def amountX (p : LayoutParams α) : α := p.marginLeft + pt 430

/-- Where the table starts: below the blocks above it, but not above its highest place. -/
def tableTop (p : LayoutParams α) (previousBottom : α) : α :=
  greater p.minTableTop (previousBottom + p.tableGap)

/-- The height of a row whose name is `measured` high. -/
def rowHeight (p : LayoutParams α) (measured : α) : α :=
  greater p.minRowHeight (measured + p.rowPadding)

end LayoutParams

/-- A place in a document. -/
structure Cursor (α : Type) where
  page : Nat
  y : α
  deriving DecidableEq, Repr

namespace Cursor

variable {α : Type} [Coordinate α]

/-- The place lower down on the page. -/
def advance (c : Cursor α) (dy : α) : Cursor α := { c with y := c.y + dy }

/-- The place on the next page. -/
def nextPage (c : Cursor α) (top : α) : Cursor α := ⟨c.page + 1, top⟩

/-- Whether a height fits between the place and a limit. -/
def fits (c : Cursor α) (height bottom : α) : Bool := le (c.y + height) bottom

end Cursor

end Billing
