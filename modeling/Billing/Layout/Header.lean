import Billing.Document.Basic
import Billing.Layout.Figures
import Billing.Layout.Mark
import Billing.Layout.Params

/-!
# The header of a document

The blocks at the top of the first page: the title with its double rule, the date, the client with
the highlighted total on the left, and the issuer with the seal on the right. Each block returns its
marks and where it ends.
-/

namespace Billing.Layout

open Coordinate

variable {α : Type} [Coordinate α]

/-- A rule across the page in black. -/
def rule (x₁ y₁ x₂ y₂ : α) (lineWidth : Rat) : Mark α := .line x₁ y₁ x₂ y₂ "black" (pt lineWidth)

/-- The title, centred, above a thick and a thin rule. -/
def drawTitle (metrics : Metrics α) (doc : Document) (c : Cursor α) :
    Except Fault (List (Mark α) × Cursor α) := do
  let title := doc.kind.title
  let style : TextStyle α :=
    { typeface := .mincho, size := pt 22, width := some metrics.pageWidth, alignment := .center,
      lineGap := pt 0 }
  let height ← metrics.textHeight title none .mincho (pt 22) (pt 0)
  let lineY := c.y + height + pt 5
  let center := divCount metrics.pageWidth 2
  let left := center - pt (155 / 2)
  let right := center + pt (155 / 2)
  let marks := [.text title (pt 0) c.y style, rule left lineY right lineY 2,
    rule left (lineY + pt 3) right (lineY + pt 3) (1 / 2)]
  return (marks, ⟨c.page, lineY + pt 30⟩)

/-- The date, on the right. -/
def drawDate (metrics : Metrics α) (p : LayoutParams α) (doc : Document) (c : Cursor α) :
    Except Fault (List (Mark α) × Cursor α) := do
  let date := doc.issuedOn.text
  let style : TextStyle α :=
    { TextStyle.plain 10 with width := some p.contentWidth, alignment := .right }
  let height ← metrics.textHeight date none .gothic (pt 10) (pt 0)
  return ([.text date p.marginLeft c.y style], c.advance height)

/-- The client, the greeting and the highlighted total; returns the bottom of the block. -/
def drawClient (metrics : Metrics α) (doc : Document) (start : Cursor α) :
    Except Fault (List (Mark α) × α) := do
  let x : α := pt 50
  let company := doc.clientCompany ++ "  御中"
  let mincho (size : Rat) : TextStyle α :=
    { typeface := .mincho, size := pt size, lineGap := pt 0 }
  let wrapped (size : Rat) : TextStyle α := { mincho size with width := some (pt 250) }
  let companyHeight ← metrics.textHeight company (some (pt 250)) .mincho (pt 14) (pt 0)
  let personY := start.y + greater (pt 25) (companyHeight + pt 8)
  let ruleY := personY + pt 20
  let amountY := ruleY + pt 50
  let total ← Number.groupedText doc.grandTotal
  let marks := [
    .text company x start.y (wrapped 14),
    .text (doc.clientPerson ++ "  様") x personY (wrapped 11),
    rule x ruleY (pt 300) ruleY (1 / 2),
    .text doc.kind.greeting x (ruleY + pt 15) (.plain 10),
    .text doc.kind.amountLabel x amountY (mincho 12),
    .text ("¥ " ++ total ++ " (税込)") (pt 130) (amountY - pt 3) (mincho 18),
    rule x (amountY + pt 20) (pt 300) (amountY + pt 20) 1]
  return (marks, amountY + pt 20)

/-- A line of the issuer block: a text that is given, after a label if there is one. A value that is
no text can be drawn only after a label. -/
def issuerLine (label : String) (x : Json) : Except Fault (Option String) :=
  if !x.isGiven then .ok none
  else if !label.isEmpty then .ok (some (label ++ x.display))
  else
    match x with
    | .str s => .ok (some s)
    | _ => .error .notText

/-- The particulars of the issuer block with their labels. -/
def issuerParticulars (issuer : Issuer) : List (String × Json) :=
  [("", issuer.representative), ("〒", issuer.postalCode), ("", issuer.address),
    ("TEL: ", issuer.phone), ("MAIL: ", issuer.email)]

/-- The lines of the issuer block below the name. -/
def issuerLines (issuer : Issuer) : Except Fault (List String) := do
  let lines ← (issuerParticulars issuer).mapM fun (label, x) => issuerLine label x
  return lines.filterMap id

/-- The texts of the issuer block in drawing order, up to the first value that is no text. -/
def issuerTexts (issuer : Issuer) : List String :=
  match issuer.companyName with
  | .str name =>
    let lines := (issuerParticulars issuer).map fun (label, x) => issuerLine label x
    name :: issuer.sealColumns ++ (lines.takeWhile (·.isOk)).filterMap (·.toOption.join)
  | _ => []

/-- The lines of the issuer block, each wrapped to the width and below the one before; returns the
bottom of the last. -/
def drawIssuerLines (metrics : Metrics α) (x width : α) :
    List String → α → Except Fault (List (Mark α) × α)
  | [], y => .ok ([], y)
  | s :: rest, y => do
    let height ← metrics.textHeight s (some width) .gothic (pt 9) (pt 0)
    let (marks, bottom) ← drawIssuerLines metrics x width rest (y + greater (pt 15) height)
    return (.text s x y { TextStyle.plain 9 with width := some width } :: marks, bottom)

/-- The issuer's name, seal and particulars; returns the bottom of the block. -/
def drawIssuer (metrics : Metrics α) (p : LayoutParams α) (doc : Document) (start : Cursor α) :
    Except Fault (List (Mark α) × α) := do
  let issuer := doc.issuer
  let x : α := pt 360
  let width := p.right - x
  let name ← match issuer.companyName with
    | .str s => pure s
    | _ => .error .notText
  let style : TextStyle α := { typeface := .mincho, size := pt 13, lineGap := pt 0 }
  let sealMarks : List (Mark α) :=
    if issuer.sealColumns.isEmpty then []
    else [.seal (x + pt 110) (start.y + pt 25) issuer.sealColumns (pt 56)]
  let lines ← issuerLines issuer
  let (marks, bottom) ← drawIssuerLines metrics x width lines (start.y + pt 60)
  return (.text name x (start.y + pt 40) style :: sealMarks ++ marks, bottom)

end Billing.Layout
