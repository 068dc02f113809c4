import Billing.Document.Error
import Billing.Json.Basic
import Billing.Number.Numeral

/-!
# Kinds of documents

Estimates, invoices and receipts with their fixed wordings. `DocumentKind.ofValue` reads a kind
from what a request holds: nothing given means an estimate, and a text names a kind in letters of
either case and with blanks around it.

* `DocumentKind.ofValue_name`: every kind is read from its own name.
-/

namespace Billing

/-- The kinds of documents. -/
inductive DocumentKind where
  | estimate
  | invoice
  | receipt
  deriving DecidableEq, Repr, Inhabited

namespace DocumentKind

/-- The identifier of the kind. -/
def name : DocumentKind → String
  | estimate => "estimate"
  | invoice => "invoice"
  | receipt => "receipt"

/-- All kinds, in the order in which they are offered. -/
def all : List DocumentKind := [estimate, invoice, receipt]

/-- The kind with an identifier. -/
def ofName? (s : String) : Option DocumentKind := all.find? (·.name = s)

/-- The heading of the document. -/
def title : DocumentKind → String
  | estimate => "御 見 積 書"
  | invoice => "御 請 求 書"
  | receipt => "領  収  書"

/-- The sentence under the client's name. -/
def greeting : DocumentKind → String
  | estimate => "下記のとおり御見積申し上げます。"
  | invoice => "下記のとおりご請求申し上げます。"
  | receipt => "下記正に領収いたしました。"

/-- The label of the highlighted total. -/
def amountLabel : DocumentKind → String
  | estimate => "御見積金額"
  | invoice => "御請求金額"
  | receipt => "領収金額"

/-- The kind's name in messages. -/
def displayName : DocumentKind → String
  | estimate => "見積書"
  | invoice => "請求書"
  | receipt => "領収書"

/-- The first part of a file name. -/
def filePrefix : DocumentKind → String
  | estimate => "Estimate"
  | invoice => "Invoice"
  | receipt => "Receipt"

/-- The kind that a text names. -/
def ofText (s : String) : Except Error DocumentKind :=
  let name := if s.isEmpty then "estimate" else String.ofList (lowercase (Text.trim s.toList))
  match ofName? name with
  | some kind => .ok kind
  | none => .error (.rejected (.unknownKind s))

/-- The kind that a value stands for: an estimate unless something is given. -/
def ofValue (x : Json) : Except Error DocumentKind :=
  match x with
  | .str s => ofText s
  | x => if x.isGiven then .error (.fault .notText) else .ok estimate

theorem ofName?_name (k : DocumentKind) : ofName? k.name = some k := by cases k <;> decide

theorem ofValue_name (k : DocumentKind) : ofValue (.str k.name) = .ok k := by
  have h : (if k.name.isEmpty then "estimate"
      else String.ofList (lowercase (Text.trim k.name.toList))) = k.name := by
    cases k <;> decide
  simp only [ofValue, ofText, h, ofName?_name]

end DocumentKind

end Billing
