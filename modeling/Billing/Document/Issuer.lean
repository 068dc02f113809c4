import Billing.Fault
import Billing.Json.Display
import Billing.Text.Blank
import Billing.Text.Lines

/-!
# Issuers

Who issues a document: the fields of the issuer block, as the settings hold them, and the columns
of the seal. Settings may hold values of any kind; a field that is not given is left out where the
block is drawn, and a value other than a text can stand only inside a line.
-/

namespace Billing

/-- The issuer of a document. -/
structure Issuer where
  companyName : Json
  representative : Json := .str ""
  postalCode : Json := .str ""
  address : Json := .str ""
  phone : Json := .str ""
  email : Json := .str ""
  bankInfo : Json := .str ""
  /-- The columns of the seal from the right to the left. -/
  sealColumns : List String := []
  deriving Inhabited

namespace Issuer

/-- The columns that the text of a seal writes, divided by slashes; blank ones are left out. -/
def sealColumnsOf (s : String) : List String :=
  ((Text.pieces '/' s).map Text.strip).filter (!·.isEmpty)

/-- The issuer whose settings `find?` looks up; a missing one is the empty text. A character may
stand for halves of characters in its texts. -/
def ofSettings (filler : Option Char) (find? : String → Option Json) : Except Fault Issuer := do
  let field (key : String) : Json := ((find? key).getD (.str "")).filled filler
  let sealColumns ← match field "seal_text" with
    | .str s => pure (sealColumnsOf s)
    | x => if x.isGiven then .error .notText else pure []
  return {
    companyName := field "company_name"
    representative := field "representative"
    postalCode := field "postal_code"
    address := field "address"
    phone := field "phone"
    email := field "email"
    bankInfo := field "bank_info"
    sealColumns }

end Issuer

end Billing
