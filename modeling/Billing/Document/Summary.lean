import Billing.Document.Basic

/-!
# Summaries

What is told about a finished document besides the document itself: the number of its items, the
total, the name of its file, and the message that it was made.
-/

namespace Billing

/-- The name of the file of a document. -/
def fileName (kind : DocumentKind) (issuedOn : Date) : String :=
  kind.filePrefix ++ "_" ++ issuedOn.compact ++ ".pdf"

/-- What is told about a finished document. -/
structure Summary where
  itemCount : Nat
  grandTotal : Int
  fileName : String
  kind : DocumentKind
  deriving DecidableEq

/-- The summary of a document. -/
def Document.summary (d : Document) : Summary where
  itemCount := d.entries.length
  grandTotal := d.grandTotal
  fileName := Billing.fileName d.kind d.issuedOn
  kind := d.kind

/-- The message that a document was made for a client. -/
def Summary.notification (s : Summary) (company person : String) : Except Fault String := do
  let total ← Number.groupedText s.grandTotal
  return "📄 *" ++ s.kind.displayName ++ "を作成しました*\n\n" ++
    "• 宛先: " ++ company ++ " / " ++ person ++ " 様\n" ++
    "• 品目数: " ++ toString s.itemCount ++ "件\n" ++
    "• 合計金額: ¥" ++ total ++ "（税込）"

end Billing
