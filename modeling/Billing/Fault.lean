/-!
# Faults

What can stop a computation on numbers, texts or drawings before it has a result. A fault has no
wording of its own: whoever runs the computation decides how to report it.
-/

namespace Billing

/-- The causes for which a computation stops without a result. -/
inductive Fault where
  /-- An integer of more digits than are read or written (`Text.digitLimit`). -/
  | digitLimit
  /-- A value that is no number where a number is needed. -/
  | notANumber
  /-- An infinite value where a finite one is needed. -/
  | infinite
  /-- A decimal operation without a result, such as zero times infinity, or no decimal text. -/
  | invalidOperation
  /-- A decimal result beyond the largest exponent. -/
  | decimalOverflow
  /-- A division by zero. -/
  | zeroDivisor
  /-- A text that writes no number. -/
  | malformedNumber
  /-- A colour that the canvas does not know. -/
  | unknownColour
  /-- A font that the canvas does not know. -/
  | unknownFont
  /-- A value other than a text where a text is needed. -/
  | notText
  /-- Half a character in a text that is to be written. -/
  | strayHalf
  deriving DecidableEq, Repr

end Billing
