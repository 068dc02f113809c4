import Billing.Office
import Billing.Service.Form

/-!
# Documents over the service

A document can be looked at before it is made (`preview`), and made (`create`). Both take the same
form; a submission that the office rejects is refused with the office's message.
-/

namespace Billing.Service

/-- What a form holds of a submission. -/
structure Particulars where
  clientCompany : Text.Raw
  clientPerson : Text.Raw
  sheet : Text.Raw
  remarks : Text.Raw
  kind : Text.Raw

namespace Particulars

/-- The particulars in a form. -/
def read (form : Form) : Checked Particulars :=
  Particulars.mk <$> requiredText form "client_company" <*> requiredText form "client_person" <*>
    requiredText form "items_text" <*> optionalText form "remarks" <*>
    defaultText form "document_type" DocumentKind.estimate.name

/-- The submission to an office. -/
def submission (p : Particulars) (o : Office) : Submission :=
  let filler := o.filler? [p.clientCompany, p.clientPerson, p.sheet, p.remarks, p.kind]
  { clientCompany := p.clientCompany.fill filler
    clientPerson := p.clientPerson.fill filler
    sheet := p.sheet.fill filler
    remarks := p.remarks.fill filler
    kind := .str (p.kind.fill filler)
    filler }

end Particulars

/-- The response when the office makes no document. -/
def failure : Error → Except Fault Response
  | .fault cause => .error cause
  | .unwritten reason =>
    let message := (Error.unwritten reason).message
    .ok ((Response.rejection 500 message).after ["PDF生成エラー: " ++ message])
  | e => .ok (.rejection 400 e.message)

/-- An entry as it is shown. -/
def entryJson (e : Entry) : Json :=
  .obj [("name", .str e.name), ("quantity", .float e.quantity), ("unit", .str e.unit),
    ("unit_price", .int e.unitPrice), ("amount", .int e.amount),
    ("category", .str e.category.name), ("quantity_hidden", .bool e.quantityHidden),
    ("unit_price_hidden", .bool e.unitPriceHidden)]

/-- A document as it is shown. -/
def documentJson (d : Document) : Json :=
  .obj [("document_type", .str d.kind.name), ("entries", .arr (d.entries.map entryJson)),
    ("subtotal", .int d.subtotal), ("tax", .int d.tax), ("grand_total", .int d.grandTotal),
    ("remarks", .str d.remarks), ("filename", .str d.summary.fileName)]

/-- The lines on the console that warn of a settings file that could not be read. -/
def warnings (warned : Bool) : List String := if warned then [settingsWarning] else []

/-- The document of a submission. -/
def preview (o : Office) (s : Submission) : Except Fault Response := do
  let (document, warned) := o.prepare s
  let response ← match document with
    | .ok d => pure { content := .json (documentJson d) }
    | .error e => failure e
  return response.after (warnings warned)

/-- The headers that tell of a print. The name of its file holds letters, digits, a point and an
underscore only, so that it needs no encoding. -/
def summaryHeaders (s : Summary) : Except Fault (List (String × String)) := do
  return [("content-disposition", "attachment; filename*=UTF-8''" ++ s.fileName),
    ("x-item-count", toString s.itemCount), ("x-grand-total", ← Number.integerText s.grandTotal)]

/-- The print of a submission. -/
def create (o : Office) (s : Submission) : Except Fault Response := do
  let (result, warned) := o.generate s
  let response ← match result with
    | .ok (printout, summary) => do
      let notification ← summary.notification s.clientCompany s.clientPerson
      pure {
        headers := ← summaryHeaders summary
        content := .print printout
        log := [notification] }
    | .error e => failure e
  return response.after (warnings warned)

/-- The response of an office to a form with a submission in it. Half a character in the response
cannot be sent. -/
def withSubmission (o : Office) (r : Request)
    (handle : Office → Submission → Except Fault Response) : Except Fault Response :=
  match r.form with
  | .error e => .ok e.response
  | .ok form =>
    match Particulars.read form with
    | .refused problems => .ok (unprocessable problems)
    | .accepted p => do
      let s := p.submission o
      let response ← handle o s
      if s.filler.any response.content.shows then throw .strayHalf
      return response

end Billing.Service
