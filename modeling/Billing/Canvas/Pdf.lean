import Billing.Canvas.Print
import Billing.Number.Shortest
import Billing.Text.Quoted

/-!
# Print files

A finished print as a file: a page description of numbered objects, with the calls of each page as
its content. The two fonts are named and not enclosed; texts are written in the units of UTF-16.

* `Printout.file`: the file of a print.
-/

namespace Billing

/-- A finished print: what the printer was called to do, on how many pages of which size. -/
structure Printout where
  calls : List (Call Binary64)
  pages : Nat
  pageWidth : Binary64
  pageHeight : Binary64

namespace Pdf

/-- Words with blanks between them. -/
def phrase (words : List String) : String := " ".intercalate words

/-- A dictionary of names and values. -/
def dictionary (entries : List (String × String)) : String :=
  "<< " ++ phrase (entries.map fun (name, value) => "/" ++ name ++ " " ++ value) ++ " >>"

/-- A list of values. -/
def array (values : List String) : String := "[" ++ phrase values ++ "]"

/-- The object of a number, where it is referred to. -/
def reference (n : Nat) : String := toString n ++ " 0 R"

/-- A length. -/
def number (x : Binary64) : String := x.fixed 4

/-- An operator behind its operands. -/
def operation (operands : List Binary64) (operator : String) : String :=
  phrase (operands.map number ++ [operator])

/-- The three parts of a colour. -/
def colorParts (code : Nat) : List Binary64 :=
  [code / 0x10000 % 0x100, code / 0x100 % 0x100, code % 0x100].map fun (n : Nat) =>
    .ofRat (n / 255)

/-- The opacity of a colour. -/
def opacityOf (opacity : Option Binary64) : Binary64 := opacity.getD 1

/-- The name of an opacity's graphics state. -/
def opacityName (sort : String) (opacity : Binary64) : String :=
  sort ++ String.ofList ((opacity.fixed 2).toList.filter (· != '.'))

/-- The graphics state of an opacity, by its name, if a call needs one. -/
def opacityState? : Call Binary64 → Option (String × String)
  | .setFillColor _ opacity =>
    some (opacityName "A" (opacityOf opacity),
      dictionary [("ca", (opacityOf opacity).fixed 2)])
  | .setStrokeColor _ opacity =>
    some (opacityName "B" (opacityOf opacity),
      dictionary [("CA", (opacityOf opacity).fixed 2)])
  | _ => none

/-- The operator that paints a path. -/
def paintOperator (fill stroke : Bool) : String :=
  match fill, stroke with
  | true, true => "B"
  | true, false => "f"
  | false, true => "S"
  | false, false => "n"

/-- The typeface that a font stands for. -/
def typefaceOf (font : String) : Typeface :=
  if font = Typeface.mincho.builtinFont then .mincho else .gothic

/-- The name of a font on a page. -/
def fontName : Typeface → String
  | .gothic => "F1"
  | .mincho => "F2"

/-- A text as a string of hexadecimal digits. -/
def hexString (s : String) : String :=
  "<" ++ String.ofList ((s.toList.flatMap Text.units).flatMap (Text.hexDigits 4)) ++ ">"

/-- Where a text starts that is aligned at `x`. -/
def textStart (alignment : Alignment) (x width : Binary64) : Binary64 :=
  match alignment with
  | .left => x
  | .center => x - width / 2
  | .right => x - width

/-- The part of the radius that makes a curve round. -/
def roundness : Binary64 := .ofRat (5523 / 10000)

/-- The operations for a circle. -/
def circle (x y r : Binary64) (operator : String) : String :=
  let k := r * roundness
  "\n".intercalate
    [operation [x + r, y] "m",
      operation [x + r, y + k, x + k, y + r, x, y + r] "c",
      operation [x - k, y + r, x - r, y + k, x - r, y] "c",
      operation [x - r, y - k, x - k, y - r, x, y - r] "c",
      operation [x + k, y - r, x + r, y - k, x + r, y] "c", operator]

/-- The sine and the cosine of a small angle in degrees. -/
def turn (degrees : Binary64) : Binary64 × Binary64 :=
  let a := degrees.toRat * (355 / 113) / 180
  let square := a * a
  (.ofRat (a - square * a / 6), .ofRat (1 - square / 2 + square * square / 24))

/-- The operations of a call that is carried out with a pen. -/
def operations (pen : Pen Binary64) : Call Binary64 → String
  | .setFont name size =>
    phrase ["/" ++ fontName (typefaceOf name), number size, "Tf"]
  | .setFillColor code opacity =>
    operation (colorParts code) "rg" ++ " /" ++ opacityName "A" (opacityOf opacity) ++ " gs"
  | .setStrokeColor code opacity =>
    operation (colorParts code) "RG" ++ " /" ++ opacityName "B" (opacityOf opacity) ++ " gs"
  | .setLineWidth width => operation [width] "w"
  | .rect x y width height fill stroke =>
    operation [x, y, width, height] "re" ++ " " ++ paintOperator fill stroke
  | .line x₁ y₁ x₂ y₂ => phrase [operation [x₁, y₁] "m", operation [x₂, y₂] "l", "S"]
  | .circle x y radius fill stroke => circle x y radius (paintOperator fill stroke)
  | .drawString alignment x y text =>
    let width := match pen.font with
      | some (font, size) => (typefaceOf font).textWidth size text.toList
      | none => 0
    phrase ["BT", operation [1, 0, 0, 1, textStart alignment x width, y] "Tm", hexString text,
      "Tj", "ET"]
  | .saveState => "q"
  | .restoreState => "Q"
  | .translate x y => operation [1, 0, 0, 1, x, y] "cm"
  | .rotate degrees =>
    let (sine, cosine) := turn degrees
    operation [cosine, sine, .neg sine, cosine, 0, 0] "cm"
  | .showPage | .save => ""

/-- The contents of the pages that calls make, of which the operations of the first page are
`page` so far, in reverse. -/
def contents (page : List String) : List (Call Binary64 × Pen Binary64) → List String
  | [] => ["\n".intercalate page.reverse]
  | (.showPage, _) :: rest => "\n".intercalate page.reverse :: contents [] rest
  | (call, pen) :: rest => contents (operations pen call :: page) rest

/-- A stream of text. -/
def stream (text : String) : String :=
  dictionary [("Length", toString text.utf8ByteSize)] ++ "\nstream\n" ++ text ++ "\nendstream"

/-- How texts are encoded. -/
def encoding : String := "UniJIS-UTF16-H"

/-- The widths of the characters that are not as wide as the size. -/
def widths (t : Typeface) : String :=
  let latin := (List.range 95).map fun k => toString (t.charWidth (Char.ofNat (0x20 + k)))
  array ["1", array latin, "327", "389", "500"]

/-- The three objects of a font, the first of which has a number. -/
def fontObjects (n : Nat) (t : Typeface) : List String :=
  let name := "/" ++ t.builtinFont
  [dictionary [("Type", "/Font"), ("Subtype", "/Type0"), ("BaseFont", name ++ "-" ++ encoding),
      ("Encoding", "/" ++ encoding), ("DescendantFonts", array [reference (n + 1)])],
    dictionary [("Type", "/Font"), ("Subtype", "/CIDFontType0"), ("BaseFont", name),
      ("CIDSystemInfo", dictionary [("Registry", "(Adobe)"), ("Ordering", "(Japan1)"),
        ("Supplement", "5")]),
      ("DW", "1000"), ("W", widths t), ("FontDescriptor", reference (n + 2))],
    dictionary [("Type", "/FontDescriptor"), ("FontName", name), ("Flags", "4"),
      ("FontBBox", "[-123 -257 1001 910]"), ("ItalicAngle", "0"), ("Ascent", "723"),
      ("Descent", "-241"), ("CapHeight", "709"), ("StemV", "69")]]

/-- The number of the first page's object. -/
def firstPage : Nat := 10

/-- The object of a page and that of its content. -/
def pageObjects (n : Nat) (content : String) : List String :=
  [dictionary [("Type", "/Page"), ("Parent", reference 2), ("Resources", reference 9),
      ("Contents", reference (n + 1))], stream content]

/-- The objects of a print: the catalogue, the list of pages, the fonts, what pages share, and the
pages. -/
def objects (p : Printout) : List String :=
  let pages := contents [] (Pen.run ({}, []) p.calls).1
  let numbers := (List.range pages.length).map fun k => firstPage + 2 * k
  [dictionary [("Type", "/Catalog"), ("Pages", reference 2)],
    dictionary [("Type", "/Pages"), ("Kids", array (numbers.map reference)),
      ("Count", toString pages.length),
      ("MediaBox", array ["0", "0", number p.pageWidth, number p.pageHeight])]] ++
    fontObjects 3 .gothic ++ fontObjects 6 .mincho ++
    [dictionary [
      ("Font", dictionary [(fontName .gothic, reference 3), (fontName .mincho, reference 6)]),
      ("ExtGState", dictionary (p.calls.filterMap opacityState?).eraseDups)]] ++
    (numbers.zip pages).flatMap fun (n, content) => pageObjects n content

/-- The first line of a file. -/
def header : String := "%PDF-1.5\n"

/-- A number in ten digits. -/
def tenDigits (n : Nat) : String :=
  let digits := toString n
  String.ofList (List.replicate (10 - digits.length) '0') ++ digits

/-- Objects with their numbers, and where each of them starts if the first starts at `offset`. -/
def place (n offset : Nat) : List String → List String × List Nat
  | [] => ([], [])
  | x :: xs =>
    let text := toString n ++ " 0 obj\n" ++ x ++ "\nendobj\n"
    let (texts, offsets) := place (n + 1) (offset + text.utf8ByteSize) xs
    (text :: texts, offset :: offsets)

/-- The text of a file with these objects. -/
def file (objects : List String) : String :=
  let (texts, offsets) := place 1 header.utf8ByteSize objects
  let body := header ++ String.join texts
  let size := toString (objects.length + 1)
  let entries := offsets.map fun offset => tenDigits offset ++ " 00000 n \n"
  body ++ "xref\n0 " ++ size ++ "\n0000000000 65535 f \n" ++ String.join entries ++
    "trailer\n" ++ dictionary [("Size", size), ("Root", reference 1)] ++
    "\nstartxref\n" ++ toString body.utf8ByteSize ++ "\n%%EOF\n"

end Pdf

/-- The file of a print. -/
def Printout.file (p : Printout) : ByteArray := (Pdf.file (Pdf.objects p)).toUTF8

end Billing
