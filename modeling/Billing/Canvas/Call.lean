import Billing.Canvas.Font
import Billing.Text.Hex

/-!
# Printer calls

A printer is driven by calls that set the state of its pen or paint with it (`Call`), with heights
counted from the bottom edge. `Pen` is that state: a new page starts with a plain pen, and a state
can be kept and taken up again. `Pen.run` follows the state through calls and says with which pen
each call was carried out.

Which colours a printer knows by their names is up to the printer (`Palette`): black, white, red and
the ones that are written as hexadecimal digits, and any others.
-/

namespace Billing

/-- The code of a colour that every printer knows, by its name or by six hexadecimal digits after a
number sign. -/
def basicColor? (name : String) : Option Nat :=
  if name = "black" then some 0x000000
  else if name = "white" then some 0xffffff
  else if name = "red" then some 0xff0000
  else
    match name.toList with
    | '#' :: ds => if ds.length = 6 then Text.hexNumber? ds else none
    | _ => none

/-- The colours that a printer knows by name, as the codes by which its pen keeps them. -/
structure Palette where
  code? : String → Option Nat
  /-- No palette gives another code to a colour that every printer knows. -/
  of_basic {name : String} {code : Nat} (h : basicColor? name = some code) : code? name = some code

namespace Palette

/-- The palette of the colours that every printer knows. -/
def basic : Palette where
  code? := basicColor?
  of_basic := id

/-- Whether a printer with the palette knows a colour. -/
def Knows (palette : Palette) (name : String) : Prop := (palette.code? name).isSome

theorem knows_of_basic (palette : Palette) {name : String} (h : (basicColor? name).isSome) :
    palette.Knows name := by
  obtain ⟨code, hcode⟩ := Option.isSome_iff_exists.1 h
  rw [Knows, palette.of_basic hcode]
  rfl

end Palette

/-- A call to a printer. -/
inductive Call (α : Type) where
  | setFont (name : String) (size : α)
  /-- Sets the colour of areas and texts, perhaps with an opacity. -/
  | setFillColor (code : Nat) (opacity : Option α)
  /-- Sets the colour of lines, perhaps with an opacity. -/
  | setStrokeColor (code : Nat) (opacity : Option α)
  | setLineWidth (width : α)
  | rect (x y width height : α) (fill stroke : Bool)
  | line (x₁ y₁ x₂ y₂ : α)
  | circle (x y radius : α) (fill stroke : Bool)
  /-- Paints a text from `x` on, around it, or up to it. -/
  | drawString (alignment : Alignment) (x y : α) (text : String)
  | showPage
  | saveState
  | restoreState
  | translate (x y : α)
  | rotate (degrees : α)
  | save

/-- Whether a call paints a character. -/
def Call.paints {α : Type} (c : Char) : Call α → Bool
  | drawString _ _ _ text => text.toList.contains c
  | _ => false

/-- The state of a printer's pen. -/
structure Pen (α : Type) where
  font : Option (String × α) := none
  fillColor : Nat × Option α := (0, none)
  strokeColor : Nat × Option α := (0, none)
  lineWidth : Option α := none

namespace Pen

variable {α : Type}

/-- The pen and the kept pens after a call. -/
def step (state : Pen α × List (Pen α)) : Call α → Pen α × List (Pen α)
  | .setFont name size => ({ state.1 with font := some (name, size) }, state.2)
  | .setFillColor code opacity => ({ state.1 with fillColor := (code, opacity) }, state.2)
  | .setStrokeColor code opacity => ({ state.1 with strokeColor := (code, opacity) }, state.2)
  | .setLineWidth width => ({ state.1 with lineWidth := some width }, state.2)
  | .showPage => ({}, state.2)
  | .saveState => (state.1, state.1 :: state.2)
  | .restoreState =>
    match state.2 with
    | [] => state
    | pen :: kept => (pen, kept)
  | _ => state

/-- The calls, each with the pen it was carried out with, and the state after them. -/
def run (state : Pen α × List (Pen α)) :
    List (Call α) → List (Call α × Pen α) × Pen α × List (Pen α)
  | [] => ([], state)
  | call :: calls =>
    let (painted, last) := run (step state call) calls
    ((call, state.1) :: painted, last)

end Pen

end Billing
