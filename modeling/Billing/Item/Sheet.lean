import Billing.Item.Line
import Billing.Text.HalfWidth

/-!
# Item sheets

A sheet is a text with one item a line. Blank lines and lines without a name are passed over
(`Item.ofSheet`).
-/

namespace Billing.Item

/-- The item that a line of a sheet writes, in full or half width and with blanks around it. -/
def ofSheetLine? (line : String) : Except Fault (Option Item) :=
  let line := Text.strip line
  if line.isEmpty then .ok none else ofLine? (Text.toHalfWidth line)

/-- The items of a sheet in line order. -/
def ofSheet (text : String) : Except Fault (List Item) :=
  ((Text.lines text).mapM ofSheetLine?).map (·.filterMap id)

end Billing.Item
