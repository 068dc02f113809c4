import Billing.Layout.Mark
import Billing.Text.Lines

/-!
# Breaking texts into lines

A text is broken at its newlines, and its paragraphs where the next character would make a line too
wide (`wrapText`); a line holds at least one character. How wide a line is, is up to the fonts
(`TextMeasure`). On a grid, where every character is as wide as the text is high, lines are cut
after a fixed count (`gridWrap`).
-/

namespace Billing

/-- The lines of a paragraph of which `line` is begun: a line ends where the next character would
make it too wide, if it holds any. -/
def wrapParagraph (tooWide : List Char → Bool) (line : List Char) : List Char → List (List Char)
  | [] => [line]
  | c :: s =>
    if line ≠ [] ∧ tooWide (line ++ [c]) then line :: wrapParagraph tooWide [c] s
    else wrapParagraph tooWide (line ++ [c]) s

/-- The lines of a text, of which the paragraphs are wrapped unless there is nothing to wrap them
to. -/
def wrapText (tooWide : Option (List Char → Bool)) (text : List Char) : List (List Char) :=
  (Text.splitOn '\n' text).flatMap fun paragraph =>
    match tooWide with
    | none => [paragraph]
    | some tooWide => wrapParagraph tooWide [] paragraph

/-- How wide texts of a size are in each typeface. -/
abbrev TextMeasure (α : Type) := Typeface → α → List Char → α

/-- The lines of a text of a size, wrapped to a width if there is one. -/
def TextMeasure.wrap {α : Type} [Coordinate α] (measure : TextMeasure α) (t : Typeface)
    (text : List Char) (width : Option α) (size : α) : List (List Char) :=
  wrapText (width.map fun width line => Coordinate.lt width (measure t size line)) text

/-- The pieces of a text of `count` characters each, the last one perhaps shorter. -/
def chunks (count : Nat) (s : List Char) : List (List Char) :=
  if _h : s.length ≤ count ∨ count = 0 then [s] else s.take count :: chunks count (s.drop count)
termination_by s.length
decreasing_by simp only [List.length_drop]; omega

/-- The lines of a text on a grid: paragraphs are cut into pieces of as many characters as fit into
the width, at least one. -/
def gridWrap {α : Type} [Coordinate α] (text : List Char) (width : Option α) (size : α) :
    Except Fault (List (List Char)) := do
  let paragraphs ← (Text.splitOn '\n' text).mapM fun paragraph =>
    match width with
    | none => .ok [paragraph]
    | some width =>
      if paragraph = [] then .ok [[]]
      else do
        let count ← Coordinate.floorQuotient width size
        return chunks (max 1 count.toNat) paragraph
  return paragraphs.flatten

namespace Metrics

variable {α : Type} [Coordinate α]

/-- The height of `count` lines: 1.2 times the size of the text each, and the gap. -/
def linesHeight (count : Nat) (size lineGap : α) : α :=
  Coordinate.ofCount count * (size * pt (6 / 5) + lineGap)

/-- The metrics of a canvas that breaks texts into lines by `wrap`. -/
def ofWrap (pageWidth : α)
    (wrap : List Char → Option α → Typeface → α → Except Fault (List (List Char))) : Metrics α where
  pageWidth
  wrap text width typeface size :=
    (wrap text.toList width typeface size).map (·.map String.ofList)
  textHeight text width typeface size lineGap :=
    (wrap text.toList width typeface size).map fun lines => linesHeight lines.length size lineGap

/-- The metrics of a printer with fonts of a measure. -/
def ofMeasure (measure : TextMeasure α) (pageWidth : α) : Metrics α :=
  ofWrap pageWidth fun text width typeface size => .ok (measure.wrap typeface text width size)

/-- The metrics of a grid, on which the typeface plays no part. -/
def grid (pageWidth : α) : Metrics α := ofWrap pageWidth fun text width _ => gridWrap text width

end Metrics

end Billing
