import Billing.Document.Basic
import Billing.Layout.Params
import Billing.Number.Numeral
import Billing.Text.Path

/-!
# Settings of the environment

The rates, limits, wordings and paths that the environment may set (`Constants`), each with a value
of its own where it is not set. A rate or a limit that is no number is refused.
-/

namespace Billing

/-- The variables of the environment. -/
abbrev Environment := List (String × String)

namespace Environment

/-- The value of a variable, the last one set counts. -/
def find? (env : Environment) (name : String) : Option String :=
  (env.reverse.find? (·.1 = name)).map (·.2)

/-- The value of a variable, or another one if it is not set. -/
def getD (env : Environment) (name default : String) : String := (env.find? name).getD default

/-- A rate that a variable sets. -/
def rate (env : Environment) (name default : String) : Except Fault Decimal :=
  match Decimal.read? (env.getD name default).toList with
  | some x => .ok x
  | none => .error .invalidOperation

/-- A length that a variable sets. -/
def length (env : Environment) (name default : String) : Except Fault Binary64 :=
  match Binary64.read? (env.getD name default).toList with
  | some x => .ok x
  | none => .error .malformedNumber

end Environment

/-- What the environment settles once for all documents. -/
structure Constants where
  outputDirectory : String
  companyFile : String
  gothicFontFile : String
  minchoFontFile : String
  rates : Rates
  minTableTop : Binary64
  tableGap : Binary64
  tableStartLimit : Binary64
  rowBottom : Binary64
  blockBottom : Binary64
  pageTop : Binary64
  minRowHeight : Binary64
  rowPadding : Binary64
  notes : Notes

namespace Constants

/-- The constants that an environment settles, with files below a base directory. -/
def ofEnvironment (base : String) (env : Environment) : Except Fault Constants := do
  let notes : Notes := {}
  let tax ← env.rate "TAX_RATE" "0.1"
  let welfare ← env.rate "WELFARE_LEVY_RATE" "0.165"
  return {
    outputDirectory := Text.normalizePath (env.getD "OUTPUT_DIR" (base ++ "/output"))
    companyFile :=
      Text.normalizePath (env.getD "COMPANY_CONFIG_PATH" (base ++ "/company_config.json"))
    gothicFontFile := env.getD "PDF_GOTHIC_FONT_PATH" (base ++ "/fonts/ipaexg.ttf")
    minchoFontFile := env.getD "PDF_MINCHO_FONT_PATH" (base ++ "/fonts/ipaexm.ttf")
    rates := { tax, welfare }
    minTableTop := ← env.length "LAYOUT_MIN_TABLE_TOP" "280"
    tableGap := ← env.length "LAYOUT_TABLE_GAP" "40"
    tableStartLimit := ← env.length "LAYOUT_TABLE_START_LIMIT" "600"
    rowBottom := ← env.length "LAYOUT_ROW_BOTTOM" "700"
    blockBottom := ← env.length "LAYOUT_BLOCK_BOTTOM" "780"
    pageTop := ← env.length "LAYOUT_PAGE_TOP" "50"
    minRowHeight := ← env.length "LAYOUT_MIN_ROW_HEIGHT" "30"
    rowPadding := ← env.length "LAYOUT_ROW_PADDING" "16"
    notes := {
      validity := env.getD "ESTIMATE_VALIDITY_NOTE" notes.validity
      paymentDue := env.getD "INVOICE_PAYMENT_DUE_NOTE" notes.paymentDue } }

/-- The measures of a layout with the limits of the environment. -/
def layout (c : Constants) : LayoutParams Binary64 :=
  { LayoutParams.standard with
    minTableTop := c.minTableTop
    tableGap := c.tableGap
    tableStartLimit := c.tableStartLimit
    rowBottom := c.rowBottom
    blockBottom := c.blockBottom
    pageTop := c.pageTop
    minRowHeight := c.minRowHeight
    rowPadding := c.rowPadding }

end Constants

end Billing
