import Billing.Layout.Coordinate

/-!
# Marks

What a layout puts on its pages (`Mark`), in drawing order, with a mark where a new page starts;
and what a layout has to know of a canvas beforehand (`Metrics`): its size, how it breaks a text
into lines and how high they stand.

* `pagesOf`: the marks of each page.
-/

namespace Billing

/-- The typefaces of a document. -/
inductive Typeface where
  | gothic
  | mincho
  deriving DecidableEq, Repr, Inhabited

namespace Typeface

def name : Typeface → String
  | gothic => "gothic"
  | mincho => "mincho"

/-- The typeface with a name. -/
def ofName? (s : String) : Option Typeface := [gothic, mincho].find? (·.name = s)

end Typeface

/-- How lines stand within their width. -/
inductive Alignment where
  | left
  | center
  | right
  deriving DecidableEq, Repr, Inhabited

namespace Alignment

def name : Alignment → String
  | left => "left"
  | center => "center"
  | right => "right"

end Alignment

/-- How a text is set. -/
structure TextStyle (α : Type) where
  typeface : Typeface := .gothic
  size : α
  /-- The width to which the text is wrapped. -/
  width : Option α := none
  alignment : Alignment := .left
  color : String := "black"
  /-- The gap between lines. -/
  lineGap : α

namespace TextStyle

/-- Gothic text of a size, black, without wrapping. -/
def plain {α : Type} [Coordinate α] (size : Rat) : TextStyle α :=
  { size := pt size, lineGap := pt 0 }

end TextStyle

/-- What a layout draws. -/
inductive Mark (α : Type) where
  /-- The start of a new page. -/
  | newPage
  | text (content : String) (x y : α) (style : TextStyle α)
  | rect (x y width height : α) (stroke fill : Option String) (lineWidth : α)
  | line (x₁ y₁ x₂ y₂ : α) (color : String) (lineWidth : α)
  | seal (x y : α) (columns : List String) (size : α)

namespace Mark

variable {α : Type}

/-- Whether the mark starts a new page. -/
def isNewPage : Mark α → Bool
  | newPage => true
  | _ => false

/-- The number of pages that marks take. -/
def pageCount (ms : List (Mark α)) : Nat := ms.countP isNewPage + 1

/-- The marks of each page, in page order. -/
def pagesOf : List (Mark α) → List (List (Mark α))
  | [] => [[]]
  | m :: ms =>
    if m.isNewPage then [] :: pagesOf ms
    else
      match pagesOf ms with
      | [] => [[m]]
      | p :: ps => (m :: p) :: ps

theorem length_pagesOf (ms : List (Mark α)) : (pagesOf ms).length = pageCount ms := by
  induction ms with
  | nil => rfl
  | cons m ms ih =>
    by_cases h : m.isNewPage
    · simp [pagesOf, h, pageCount, ih]
    · have : (pagesOf ms).length ≠ 0 := by simp [ih, pageCount]
      cases hp : pagesOf ms with
      | nil => simp [hp] at this
      | cons p ps => simpa [pagesOf, h, hp, pageCount] using ih

end Mark

/-- What a layout has to know of a canvas. -/
structure Metrics (α : Type) where
  pageWidth : α
  /-- The lines of a text wrapped to a width; at least one. -/
  wrap : String → Option α → Typeface → α → Except Fault (List String)
  /-- The height of a text wrapped to a width, set with a gap between lines. -/
  textHeight : String → Option α → Typeface → α → α → Except Fault α

end Billing
