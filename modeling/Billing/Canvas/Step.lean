import Billing.Canvas.Print

/-!
# Canvas steps

The operations that a canvas offers by themselves (`CanvasStep`), with fonts by their names:
measuring, drawing, adding pages and finishing. `Canvas.perform` carries one out; a step that fails
leaves the calls it has made so far, and the next one goes on from there.
-/

namespace Billing

/-- An operation of a canvas. -/
inductive CanvasStep (α : Type) where
  | textWidth (text font : String) (size : α)
  | wrapLines (text : String) (width : Option α) (font : String) (size : α)
  | textHeight (text : String) (width : Option α) (font : String) (size lineGap : α)
  /-- Draws a text whose style's typeface is the one of this name. -/
  | drawText (text : String) (x y : α) (font : String) (style : TextStyle α)
  /-- Draws a mark that has no font of its own. -/
  | drawMark (mark : Mark α)
  | finish

/-- What a step gives back. -/
inductive StepReply (α : Type) where
  | nothing
  | length (value : α)
  | lines (lines : List String)
  /-- How often the file was written so far. -/
  | file (written : Nat)

/-- What a step makes: its calls, its reply or error, and the canvas after it. -/
structure StepResult (α : Type) where
  calls : List (Call α) := []
  outcome : Except Error (StepReply α)
  canvas : Canvas α

namespace Canvas

variable {α : Type} [Coordinate α]

/-- The typeface of a name. -/
def typefaceOf (name : String) : Except Error Typeface :=
  match Typeface.ofName? name with
  | some t => .ok t
  | none => .error (.fault .unknownFont)

/-- A step that measures only. -/
def measured (c : Canvas α) (outcome : Except Error (StepReply α)) : StepResult α :=
  { outcome, canvas := c }

/-- A mark drawn as a step. -/
def drawn (c : Canvas α) (mark : Mark α) : StepResult α :=
  let (calls, canvas) := c.draw mark
  { calls := calls.calls
    outcome := match calls.fault with
      | some fault => .error (.fault fault)
      | none => .ok .nothing
    canvas }

/-- A step carried out. -/
def perform (c : Canvas α) : CanvasStep α → StepResult α
  | .textWidth text font size =>
    c.measured <| (typefaceOf font).map fun t => .length (t.textWidth size text.toList)
  | .wrapLines text width font size =>
    c.measured <| (typefaceOf font).map fun t =>
      .lines ((t.wrap text.toList width size).map String.ofList)
  | .textHeight text width font size lineGap =>
    c.measured <| (typefaceOf font).map fun t =>
      .length (Metrics.linesHeight (t.wrap text.toList width size).length size lineGap)
  | .drawText text x y font style =>
    match typefaceOf font with
    | .error e => c.measured (.error e)
    | .ok typeface => c.drawn (.text text x y { style with typeface })
  | .drawMark mark => c.drawn mark
  | .finish =>
    match c.finish with
    | (calls, .error e) => { calls, outcome := .error e, canvas := c }
    | (calls, .ok canvas) => { calls, outcome := .ok (.file canvas.written), canvas }

/-- Steps carried out one after the other. -/
def performAll (c : Canvas α) : List (CanvasStep α) → List (StepResult α)
  | [] => []
  | step :: steps =>
    let result := c.perform step
    result :: performAll result.canvas steps

end Canvas

end Billing
