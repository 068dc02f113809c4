import Billing.Canvas.Wrap

/-!
# Fonts

The fonts that stand for the typefaces of a document. Each typeface has a font file; where the file
is missing or is no font, a font that every printer knows takes its place (`FontRegistry.register`).
The widths of characters are those of the latter fonts, in thousandths of the size (`charWidth`).
-/

namespace Billing

namespace Typeface

/-- The name of the font in the typeface's own file. -/
def ownFont (t : Typeface) : String := "Mitsumori-" ++ t.name

/-- The font that every printer knows. -/
def builtinFont : Typeface → String
  | gothic => "HeiseiKakuGo-W5"
  | mincho => "HeiseiMin-W3"

/-- The widths of the characters of the gothic font: first code, last code and width of a run. -/
def gothicWidths : List (Nat × Nat × Nat) :=
  [(0x20, 0x20, 277), (0x21, 0x21, 305), (0x22, 0x22, 500), (0x23, 0x24, 668), (0x25, 0x25, 906),
    (0x26, 0x26, 727), (0x27, 0x27, 305), (0x28, 0x29, 445), (0x2A, 0x2A, 508), (0x2B, 0x2B, 668),
    (0x2C, 0x2C, 305), (0x2D, 0x2D, 379), (0x2E, 0x2E, 305), (0x2F, 0x2F, 539), (0x30, 0x39, 668),
    (0x3A, 0x3B, 305), (0x3C, 0x3E, 668), (0x3F, 0x3F, 566), (0x40, 0x40, 871), (0x41, 0x41, 727),
    (0x42, 0x42, 637), (0x43, 0x43, 652), (0x44, 0x44, 699), (0x45, 0x45, 574), (0x46, 0x46, 555),
    (0x47, 0x47, 676), (0x48, 0x48, 687), (0x49, 0x49, 242), (0x4A, 0x4A, 492), (0x4B, 0x4B, 664),
    (0x4C, 0x4C, 582), (0x4D, 0x4D, 789), (0x4E, 0x4E, 707), (0x4F, 0x4F, 734), (0x50, 0x50, 582),
    (0x51, 0x51, 734), (0x52, 0x53, 605), (0x54, 0x54, 641), (0x55, 0x55, 668), (0x56, 0x56, 727),
    (0x57, 0x57, 945), (0x58, 0x59, 609), (0x5A, 0x5A, 574), (0x5B, 0x5B, 445), (0x5D, 0x5D, 445),
    (0x5E, 0x5F, 668), (0x60, 0x60, 590), (0x61, 0x61, 555), (0x62, 0x62, 609), (0x63, 0x63, 547),
    (0x64, 0x64, 602), (0x65, 0x65, 574), (0x66, 0x66, 391), (0x67, 0x67, 609), (0x68, 0x68, 582),
    (0x69, 0x69, 234), (0x6A, 0x6A, 277), (0x6B, 0x6B, 539), (0x6C, 0x6C, 234), (0x6D, 0x6D, 895),
    (0x6E, 0x6E, 582), (0x6F, 0x6F, 605), (0x70, 0x71, 602), (0x72, 0x72, 387), (0x73, 0x73, 508),
    (0x74, 0x74, 441), (0x75, 0x75, 582), (0x76, 0x76, 562), (0x77, 0x77, 781), (0x78, 0x78, 531),
    (0x79, 0x79, 570), (0x7A, 0x7A, 555), (0x7B, 0x7B, 449), (0x7C, 0x7C, 246), (0x7D, 0x7D, 449),
    (0x7E, 0x7E, 668), (0xA5, 0xA5, 668), (0x300, 0x300, 590), (0x303, 0x303, 668),
    (0x332, 0x332, 668), (0x2002, 0x2002, 500), (0x2011, 0x2011, 379), (0x203E, 0x203E, 500),
    (0xFF61, 0xFF9F, 500), (0xFFE8, 0xFFE8, 500)]

/-- The widths of the characters of the mincho font: first code, last code and width of a run. -/
def minchoWidths : List (Nat × Nat × Nat) :=
  [(0x20, 0x20, 250), (0x21, 0x21, 333), (0x22, 0x22, 408), (0x23, 0x24, 500), (0x25, 0x25, 833),
    (0x26, 0x26, 778), (0x27, 0x27, 180), (0x28, 0x29, 333), (0x2A, 0x2A, 500), (0x2B, 0x2B, 564),
    (0x2C, 0x2C, 250), (0x2D, 0x2D, 333), (0x2E, 0x2E, 250), (0x2F, 0x2F, 278), (0x30, 0x39, 500),
    (0x3A, 0x3B, 278), (0x3C, 0x3E, 564), (0x3F, 0x3F, 444), (0x40, 0x40, 921), (0x41, 0x41, 722),
    (0x42, 0x43, 667), (0x44, 0x44, 722), (0x45, 0x45, 611), (0x46, 0x46, 556), (0x47, 0x48, 722),
    (0x49, 0x49, 333), (0x4A, 0x4A, 389), (0x4B, 0x4B, 722), (0x4C, 0x4C, 611), (0x4D, 0x4D, 889),
    (0x4E, 0x4F, 722), (0x50, 0x50, 556), (0x51, 0x51, 722), (0x52, 0x52, 667), (0x53, 0x53, 556),
    (0x54, 0x54, 611), (0x55, 0x56, 722), (0x57, 0x57, 944), (0x58, 0x59, 722), (0x5A, 0x5A, 611),
    (0x5B, 0x5B, 333), (0x5C, 0x5C, 278), (0x5D, 0x5D, 333), (0x5E, 0x5E, 469), (0x5F, 0x5F, 500),
    (0x60, 0x60, 333), (0x61, 0x61, 444), (0x62, 0x62, 500), (0x63, 0x63, 444), (0x64, 0x64, 500),
    (0x65, 0x65, 444), (0x66, 0x66, 333), (0x67, 0x68, 500), (0x69, 0x6A, 278), (0x6B, 0x6B, 500),
    (0x6C, 0x6C, 278), (0x6D, 0x6D, 778), (0x6E, 0x71, 500), (0x72, 0x72, 333), (0x73, 0x73, 389),
    (0x74, 0x74, 278), (0x75, 0x76, 500), (0x77, 0x77, 722), (0x78, 0x79, 500), (0x7A, 0x7A, 444),
    (0x7B, 0x7B, 480), (0x7C, 0x7C, 200), (0x7D, 0x7D, 480), (0x7E, 0x7E, 333), (0xA1, 0xA1, 333),
    (0xA2, 0xA5, 500), (0xA6, 0xA6, 200), (0xA9, 0xA9, 760), (0xAA, 0xAA, 276), (0xAB, 0xAB, 500),
    (0xAC, 0xAD, 564), (0xAE, 0xAE, 760), (0xAF, 0xAF, 333), (0xB2, 0xB3, 300), (0xB5, 0xB5, 500),
    (0xB7, 0xB7, 250), (0xB8, 0xB8, 333), (0xB9, 0xB9, 300), (0xBA, 0xBA, 310), (0xBB, 0xBB, 500),
    (0xBC, 0xBE, 750), (0xBF, 0xBF, 444), (0xC0, 0xC5, 722), (0xC6, 0xC6, 889), (0xC7, 0xC7, 667),
    (0xC8, 0xCB, 611), (0xCC, 0xCF, 333), (0xD0, 0xD6, 722), (0xD8, 0xDD, 722), (0xDE, 0xDE, 556),
    (0xDF, 0xDF, 500), (0xE0, 0xE5, 444), (0xE6, 0xE6, 667), (0xE7, 0xEB, 444), (0xEC, 0xEF, 278),
    (0xF0, 0xF6, 500), (0xF8, 0xFF, 500), (0x131, 0x131, 278), (0x141, 0x141, 611),
    (0x142, 0x142, 278), (0x152, 0x152, 889), (0x153, 0x153, 722), (0x160, 0x160, 556),
    (0x161, 0x161, 389), (0x178, 0x178, 722), (0x17D, 0x17D, 611), (0x17E, 0x17E, 444),
    (0x1C0, 0x1C0, 200), (0x300, 0x304, 333), (0x305, 0x305, 500), (0x306, 0x308, 333),
    (0x30A, 0x30C, 333), (0x327, 0x328, 333), (0x332, 0x332, 500), (0x2002, 0x2002, 500),
    (0x2011, 0x2011, 333), (0x2012, 0x2013, 500), (0x201A, 0x201A, 333), (0x201E, 0x201E, 444),
    (0x2022, 0x2022, 350), (0x2039, 0x203A, 333), (0x203E, 0x203E, 500), (0x2044, 0x2044, 167),
    (0x2122, 0x2122, 980), (0xFB01, 0xFB02, 556), (0xFF61, 0xFF9F, 500), (0xFFE8, 0xFFE8, 500)]

/-- The widths of the characters that are not as wide as the size. -/
def narrowWidths : Typeface → List (Nat × Nat × Nat)
  | gothic => gothicWidths
  | mincho => minchoWidths

/-- The width of a character in thousandths of the size. -/
def charWidth (t : Typeface) (c : Char) : Nat :=
  match t.narrowWidths.find? fun (first, last, _) => first ≤ c.toNat && c.toNat ≤ last with
  | some (_, _, width) => width
  | none => 1000

/-- The width of a text of a size. -/
def textWidth {α : Type} [Coordinate α] (t : Typeface) (size : α) (s : List Char) : α :=
  size * pt (1 / 1000) * Coordinate.ofCount ((s.map t.charWidth).foldl (· + ·) 0)

/-- The lines of a text of a size, wrapped to a width if there is one. -/
def wrap {α : Type} [Coordinate α] (t : Typeface) (text : List Char) (width : Option α) (size : α) :
    List (List Char) :=
  TextMeasure.wrap textWidth t text width size

end Typeface

namespace Metrics

/-- The metrics of a printer with the built-in fonts. -/
def print {α : Type} [Coordinate α] (pageWidth : α) : Metrics α :=
  ofMeasure Typeface.textWidth pageWidth

end Metrics

/-- What is found where a font file should be. -/
inductive FontFile where
  | missing
  | invalid
  | valid
  deriving DecidableEq, Repr

/-- The fonts that are registered for typefaces. -/
abbrev FontRegistry := List (Typeface × String)

namespace FontRegistry

/-- The font registered for a typeface. -/
def fontOf? (r : FontRegistry) (t : Typeface) : Option String :=
  (List.find? (·.1 = t) r).map (·.2)

/-- The font of a typeface and whether it had to be registered for it: the one in its file, or the
built-in one. -/
def register (r : FontRegistry) (t : Typeface) (file : FontFile) :
    FontRegistry × String × Bool :=
  match r.fontOf? t with
  | some font => (r, font, false)
  | none =>
    let font := if file = .valid then t.ownFont else t.builtinFont
    ((t, font) :: r, font, true)

end FontRegistry

end Billing
