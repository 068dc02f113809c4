import Billing.Document.Date
import Billing.Document.Issuer
import Billing.Document.Kind
import Billing.Item.Sheet
import Billing.Pricing.Basic

/-!
# Documents

A document is what is drawn: its kind, the client, the priced entries with their totals, remarks, a
date and the issuer. `Draft.check` accepts the particulars of a document that are complete;
`Draft.issue` adds the issuer and, where no remarks were given, the usual ones. `Submission.draft`
starts from the text of a sheet.
-/

namespace Billing

/-- The wordings of the usual remarks that can be set. -/
structure Notes where
  /-- How long an estimate is valid. -/
  validity : String := "有効期限： 御見積提出日より30日間"
  /-- When an invoice is due. -/
  paymentDue : String := "お振込期限： 翌月末日"
  deriving DecidableEq

/-- The remarks of a document for which none were given. -/
def defaultRemarks (notes : Notes) (kind : DocumentKind) (bankInfo : Json) : String :=
  match kind with
  | .receipt => "但し、上記正に領収いたしました。"
  | .invoice => notes.paymentDue ++ "\n振込先： " ++ bankInfo.display
  | .estimate => notes.validity ++ "\n支払条件： 弊社指定口座への振り込み・現金"

/-- A document. -/
structure Document where
  kind : DocumentKind
  clientCompany : String
  clientPerson : String
  entries : List Entry
  subtotal : Int
  tax : Int
  grandTotal : Int
  remarks : String
  /-- Whether the remarks are the usual ones. -/
  remarksAreDefault : Bool
  issuedOn : Date
  issuer : Issuer
  taxRate : Decimal

/-- A document without its issuer. -/
structure Draft where
  kind : DocumentKind
  clientCompany : String
  clientPerson : String
  priced : Priced
  /-- The remarks that were given; empty if none were. -/
  remarks : String
  issuedOn : Date

namespace Draft

/-- The draft with these particulars: a company, a person and at least one entry are needed. -/
def check (kind : DocumentKind) (company person : String) (priced : Priced) (remarks : String)
    (issuedOn : Date) : Except Error Draft :=
  let clientCompany := Text.strip company
  let clientPerson := Text.strip person
  if clientCompany.isEmpty then .error (.rejected .noCompany)
  else if clientPerson.isEmpty then .error (.rejected .noPerson)
  else if priced.entries.isEmpty then .error (.rejected .noEntries)
  else .ok { kind, clientCompany, clientPerson, priced, remarks := Text.strip remarks, issuedOn }

/-- The document that an issuer makes of the draft. -/
def issue (notes : Notes) (d : Draft) (issuer : Issuer) : Document where
  kind := d.kind
  clientCompany := d.clientCompany
  clientPerson := d.clientPerson
  entries := d.priced.entries
  subtotal := d.priced.subtotal
  tax := d.priced.tax
  grandTotal := d.priced.grandTotal
  remarks :=
    if d.remarks.isEmpty then defaultRemarks notes d.kind issuer.bankInfo else d.remarks
  remarksAreDefault := d.remarks.isEmpty
  issuedOn := d.issuedOn
  issuer
  taxRate := d.priced.taxRate

end Draft

/-- What is entered for a document. -/
structure Submission where
  clientCompany : String
  clientPerson : String
  sheet : String
  remarks : String := ""
  /-- The kind that was asked for, as it was given. -/
  kind : Json := .str "estimate"
  /-- The character that stands for halves of characters in these texts and in the issuer's, if
  there may be halves. It has no other use there. -/
  filler : Option Char := none
  deriving Inhabited

namespace Submission

/-- The draft that a submission makes on a day: the kind is read first, then the sheet, which must
hold an item, then the items are priced, and last the client is looked at. -/
def draft (rates : Rates) (issuedOn : Date) (s : Submission) : Except Error Draft := do
  let kind ← DocumentKind.ofValue s.kind
  let items ← Fault.lift (Item.ofSheet s.sheet)
  if items.isEmpty then throw .noItems
  let priced ← Fault.lift (price rates items)
  Draft.check kind s.clientCompany s.clientPerson priced s.remarks issuedOn

end Submission

end Billing
