import Billing.Host.Label
import Billing.Text.Lines

/-!
# Names of hosts

A name is labels with dots between them, and may end with a dot.

* `encodeName`: the name as it is sent, in ASCII.
* `decodeName`: the name as it is shown.
-/

namespace Billing.Host

/-- The dots that separate labels. -/
def dots : List Char := ['.', '。', '．', '｡']

/-- The labels of a name, and whether a dot ends it. -/
def labelsOf (name : List Char) : List (List Char) × Bool :=
  let labels := Text.splitOn '.' (name.map fun c => if dots.contains c then '.' else c)
  if labels.getLast? = some [] then (labels.dropLast, true) else (labels, false)

/-- A name of labels. -/
def joinLabels (labels : List (List Char)) (endsInDot : Bool) : List Char :=
  Text.joinWith '.' (labels ++ if endsInDot then [[]] else [])

/-- Whether a name has too many characters; a dot at its end does not count. -/
def isTooLong (name : List Char) (endsInDot : Bool) : Bool :=
  (if endsInDot then nameLimit + 1 else nameLimit) < name.length

/-- The name as it is sent. -/
def encodeName (name : List Char) : Except LabelFlaw (List Char) := do
  if isTooLong name true then throw .form
  let (labels, endsInDot) := labelsOf name
  let sent := joinLabels (← labels.mapM encodeLabel) endsInDot
  if isTooLong sent endsInDot then throw .form
  return sent

/-- The name as it is shown. -/
def decodeName (name : List Char) : Except LabelFlaw (List Char) := do
  if isTooLong name true then throw .form
  let (labels, endsInDot) := labelsOf name
  return joinLabels (← labels.mapM decodeLabel) endsInDot

end Billing.Host
