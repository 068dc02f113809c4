import Billing.Canvas.Call
import Billing.Document.Error

/-!
# The print canvas

Marks are printed by turning each into calls to the printer (`Canvas.draw`): heights are counted
from the top edge for a mark and from the bottom edge for a call. A text or a rectangle with an
unknown colour stops half way, after the calls that came before. The canvas counts its pages, draws
random numbers for the worn look of a seal, and writes a file when it is finished.

* `Canvas.draw`: the calls for a mark.
* `Canvas.finish`: the calls that write the file.
-/

namespace Billing

open Coordinate

/-- The state of a canvas. -/
structure Canvas (α : Type) where
  pageWidth : α
  pageHeight : α
  /-- The colours of the printer. -/
  palette : Palette := .basic
  /-- The random numbers, between zero and one. -/
  random : Nat → α
  /-- How many random numbers were used. -/
  used : Nat := 0
  pages : Nat := 1
  /-- Why the file cannot be written, if it cannot. -/
  obstacle : Option String := none
  /-- How often the file was written. -/
  written : Nat := 0

/-- Calls to the printer, and whether something stopped them. -/
structure Calls (α : Type) where
  calls : List (Call α)
  fault : Option Fault := none

namespace Calls

variable {α : Type}

/-- Calls that are carried out to their end. -/
def done (calls : List (Call α)) : Calls α := ⟨calls, none⟩

/-- What follows calls, unless they were stopped. -/
def andThen (x y : Calls α) : Calls α :=
  match x.fault with
  | some _ => x
  | none => ⟨x.calls ++ y.calls, y.fault⟩

/-- The call that sets a colour, stopped if the colour is unknown. -/
def withColor (palette : Palette) (name : String) (call : Nat → Call α) : Calls α :=
  match palette.code? name with
  | some code => done [call code]
  | none => ⟨[], some .unknownColour⟩

end Calls

namespace Canvas

variable {α : Type} [Coordinate α]

/-- A canvas of the size of a sheet of A4 paper. -/
def a4 (random : Nat → α) : Canvas α where
  pageWidth := pt (5952755905511812 / 10000000000000)
  pageHeight := pt (8418897637795277 / 10000000000000)
  random

/-- What a layout has to know of the canvas. -/
def metrics (c : Canvas α) : Metrics α := .print c.pageWidth

/-- The height above the bottom edge. -/
def flip (c : Canvas α) (y : α) : α := c.pageHeight - y

/-- The calls that paint lines one below the other. -/
def lineCalls (alignment : Alignment) (x lineHeight : α) : α → List (List Char) → List (Call α)
  | _, [] => []
  | y, s :: rest =>
    .drawString alignment x y (String.ofList s) ::
      lineCalls alignment x lineHeight (y - lineHeight) rest

/-- Where lines of an alignment start, have their middle, or end; lines without a width start at
`x`. -/
def anchor (style : TextStyle α) (x : α) : Alignment × α :=
  match style.alignment, style.width with
  | .center, some width => (.center, x + divCount width 2)
  | .right, some width => (.right, x + width)
  | _, _ => (.left, x)

/-- The calls for a text in fonts of a measure. -/
def textCallsBy (c : Canvas α) (measure : TextMeasure α) (text : String) (x y : α)
    (style : TextStyle α) : Calls α :=
  let lineHeight := style.size * pt (6 / 5) + style.lineGap
  let baseline := c.flip y - style.size * pt (22 / 25)
  let (alignment, x) := anchor style x
  let lines := measure.wrap style.typeface text.toList style.width style.size
  (Calls.done [.setFont style.typeface.builtinFont style.size]).andThen <|
    (Calls.withColor c.palette style.color (.setFillColor · none)).andThen <|
      Calls.done (lineCalls alignment x lineHeight baseline lines)

/-- The calls for a text in the built-in fonts. -/
def textCalls (c : Canvas α) (text : String) (x y : α) (style : TextStyle α) : Calls α :=
  c.textCallsBy Typeface.textWidth text x y style

/-- A colour that is given; the empty name gives none. -/
def given? (color : Option String) : Option String := color.filter (!·.isEmpty)

/-- The calls for a rectangle. -/
def rectCalls (c : Canvas α) (x y width height : α) (stroke fill : Option String) (lineWidth : α) :
    Calls α :=
  let stroke := given? stroke
  let fill := given? fill
  let strokeCalls :=
    stroke.elim (.done []) fun s => Calls.withColor c.palette s (.setStrokeColor · none)
  let fillCalls := fill.elim (.done []) fun s => Calls.withColor c.palette s (.setFillColor · none)
  (Calls.done [.setLineWidth lineWidth]).andThen <| strokeCalls.andThen <| fillCalls.andThen <|
    .done [.rect x (c.flip (y + height)) width height fill.isSome stroke.isSome]

/-- The calls for a line. -/
def lineMarkCalls (c : Canvas α) (x₁ y₁ x₂ y₂ : α) (color : String) (lineWidth : α) : Calls α :=
  (Calls.done [.setLineWidth lineWidth]).andThen <|
    (Calls.withColor c.palette color (.setStrokeColor · none)).andThen <|
      .done [.line x₁ (c.flip y₁) x₂ (c.flip y₂)]

/-- The colour of a seal. -/
def sealColor : Nat := 0xb22222

/-- The size of the characters of a seal. -/
def sealFontSize : Rat := 11

/-- The distance between the characters of a column. -/
def sealSpacing : Rat := 12

/-- The calls for the characters of a column, from the top down. -/
def columnCalls (c : Canvas α) (x top : α) (column : List Char) : List (Call α) :=
  column.zipIdx.map fun (char, j) =>
    .drawString .left x
      (c.flip (top + ofCount j * pt sealSpacing) - pt sealFontSize * pt (22 / 25))
      (String.ofList [char])

/-- The calls for the columns, from the right to the left. -/
def columnsCalls (c : Canvas α) (x y size : α) (columns : List String) : List (Call α) :=
  let step :=
    if 1 < columns.length then divCount (size - pt 22) (columns.length - 1) else pt 0
  columns.zipIdx.flatMap fun (column, i) =>
    let column := column.toList
    let columnX := x + size - pt 16 - ofCount i * step
    let columnY := y + divCount (size - ofCount column.length * pt sealSpacing) 2
    columnCalls c columnX columnY column

/-- The number of specks that make a seal look worn. -/
def speckCount : Nat := 50

/-- The calls for the specks. -/
def speckCalls (c : Canvas α) (x y size : α) : List (Call α) :=
  (List.range speckCount).map fun k =>
    let n := c.used + 3 * k
    .circle (x + c.random n * size) (c.flip (y + c.random (n + 1) * size))
      (c.random (n + 2) * pt (3 / 2)) true false

/-- The calls for a seal: a slightly turned double frame, its columns, and specks in white. -/
def sealCalls (c : Canvas α) (x y : α) (columns : List String) (size : α) : List (Call α) :=
  let centerX := x + divCount size 2
  let centerY := c.flip (y + divCount size 2)
  let opacity : Option α := some (pt (17 / 20))
  [.saveState, .translate centerX centerY, .rotate (pt 2),
    .translate (pt 0 - centerX) (pt 0 - centerY),
    .setStrokeColor sealColor opacity, .setLineWidth (pt (5 / 2)),
    .rect x (c.flip (y + size)) size size false true,
    .setLineWidth (pt 1),
    .rect (x + pt 3) (c.flip (y + size - pt 3)) (size - pt 6) (size - pt 6) false true,
    .setFillColor sealColor opacity,
    .setFont Typeface.mincho.builtinFont (pt sealFontSize)] ++
    columnsCalls c x y size columns ++ .setFillColor 0xffffff none :: speckCalls c x y size ++
    [.restoreState]

/-- The calls for a mark, and the canvas after them. -/
def draw (c : Canvas α) : Mark α → Calls α × Canvas α
  | .newPage => (.done [.showPage], { c with pages := c.pages + 1 })
  | .text text x y style => (c.textCalls text x y style, c)
  | .rect x y width height stroke fill lineWidth =>
    (c.rectCalls x y width height stroke fill lineWidth, c)
  | .line x₁ y₁ x₂ y₂ color lineWidth => (c.lineMarkCalls x₁ y₁ x₂ y₂ color lineWidth, c)
  | .seal x y columns size =>
    (.done (c.sealCalls x y columns size), { c with used := c.used + 3 * speckCount })

/-- The calls for marks, and the canvas after them; a fault stops them. -/
def drawAll (c : Canvas α) : List (Mark α) → Calls α × Canvas α
  | [] => (.done [], c)
  | m :: ms =>
    let (first, c) := c.draw m
    match first.fault with
    | some _ => (first, c)
    | none =>
      let (rest, c) := c.drawAll ms
      (⟨first.calls ++ rest.calls, rest.fault⟩, c)

/-- The calls that write the file, and the canvas after them; or why it was not written. -/
def finish (c : Canvas α) : List (Call α) × Except Error (Canvas α) :=
  ([.save], match c.obstacle with
    | some reason => .error (.unwritten reason)
    | none => .ok { c with written := c.written + 1 })

end Canvas

end Billing
