import Billing.Fault

/-!
# Errors

Why no document comes out of what was entered, or why it could not be written, with the messages
that are shown.
-/

namespace Billing

/-- What is missing or wrong in the particulars of a document. -/
inductive Rejection where
  | unknownKind (text : String)
  | noCompany
  | noPerson
  | noEntries
  deriving DecidableEq, Repr

namespace Rejection

def message : Rejection → String
  | unknownKind text => "帳票の種類が不正です: " ++ text
  | noCompany => "宛先（社名）が入力されていません"
  | noPerson => "担当者名が入力されていません"
  | noEntries => "明細が1件もありません"

end Rejection

/-- Why no document is made. -/
inductive Error where
  /-- The sheet holds no item. -/
  | noItems
  | rejected (reason : Rejection)
  /-- The finished file could not be written. -/
  | unwritten (reason : String)
  | fault (cause : Fault)
  deriving DecidableEq, Repr

namespace Error

/-- The message that is shown; a fault has none. -/
def message : Error → String
  | noItems => "品目が正しく入力されていません。「品名, 数量, 単価」の形式で入力してください。"
  | rejected reason => reason.message
  | unwritten reason => "PDFの書き出しに失敗しました: " ++ reason
  | fault _ => ""

end Error

/-- A computation's fault as an error. -/
def Fault.lift {α : Type} (x : Except Fault α) : Except Error α := x.mapError .fault

end Billing
