import Billing.Host.Context
import Billing.Host.Direction
import Billing.Host.Letter
import Billing.Host.Punycode

/-!
# Labels

A name consists of labels. A label with characters beyond ASCII is sent in ASCII, behind a mark that
says so (`encodeLabel`), and shown as it is (`decodeLabel`).

* `encodeLabel_nil`: no label is empty.
-/

namespace Billing.Host

/-- What is wrong with a label. -/
inductive LabelFlaw where
  /-- It is empty, too long, not composed, has hyphens or joiners where none may be, starts with a
  mark, or is not written as it should be. -/
  | form
  /-- It holds a character that is no letter of names. -/
  | letter
  /-- A sign or a digit stands where it may not. -/
  | context
  /-- The directions of its characters do not go together. -/
  | direction
  deriving DecidableEq, Repr

/-- How many characters a name may have. -/
def nameLimit : Nat := 253

/-- How many characters a label may have when it is sent. -/
def labelLimit : Nat := 63

/-- Whether the characters of a label may stand where they do, after those in `before`, which are in
reverse. -/
def checkLetters (before : List Char) : List Char → Except LabelFlaw Unit
  | [] => .ok ()
  | c :: s =>
    match joinerRule? c, contextRule? c with
    | some rule, _ => if rule before s then checkLetters (c :: before) s else .error .form
    | none, some rule => if rule before s then checkLetters (c :: before) s else .error .context
    | none, none => if isNameLetter c then checkLetters (c :: before) s else .error .letter

/-- Whether the hyphens of a label are in its inside, and not in the third and the fourth place. -/
def hasHyphensInside (label : List Char) : Bool :=
  label.head? != some '-' && label.getLast? != some '-' && (label.drop 2).take 2 != ['-', '-']

/-- What is wrong with a label as it is shown. -/
def checkLabel (label : List Char) : Except LabelFlaw Unit := do
  if label.isEmpty || nameLimit + 1 < label.length || !Text.isComposed label then throw .form
  if !hasHyphensInside label || label.head?.any Text.isMark then throw .form
  checkLetters [] label
  if !isWellDirected label then throw .direction

/-- The mark of a label that is sent in ASCII for other characters. -/
def labelMark : List Char := ['x', 'n', '-', '-']

/-- The label that is shown for one in ASCII. -/
def decodeLabel (label : List Char) : Except LabelFlaw (List Char) := do
  let label := label.map Char.toLower
  if labelMark.isPrefixOf label then
    let written := label.drop labelMark.length
    if written.isEmpty || written.getLast? = some '-' then throw .form
    match Punycode.decode? written with
    | none => throw .form
    | some label =>
      checkLabel label
      return label
  else
    checkLabel label
    return label

/-- The label in ASCII. -/
def encodeLabel (label : List Char) : Except LabelFlaw (List Char) := do
  let sent ←
    if label.all (·.toNat < 0x80) then
      let _ ← decodeLabel label
      pure label
    else
      checkLabel label
      pure (labelMark ++ Punycode.encode label)
  if labelLimit < sent.length then throw .form
  return sent

theorem encodeLabel_nil : encodeLabel [] = .error .form := rfl

end Billing.Host
