import Billing.Json.Basic
import Billing.Number.Shortest
import Billing.Text.Quoted

/-!
# Showing JSON values

A value within a line of a document (`Json.display`): a text as it is; other values by their names
and numbers, with texts inside arrays and objects quoted.
-/

namespace Billing.Json

mutual

/-- The form of a value inside another. -/
def inspect : Json → String
  | null => "None"
  | bool b => if b then "True" else "False"
  | int n => Number.integer n
  | float x => x.text
  | str s => Text.quoted s
  | torn ps => Text.quoted (.torn ps)
  | arr xs => "[" ++ ", ".intercalate (inspectItems xs) ++ "]"
  | obj ms => "\x7b" ++ ", ".intercalate (inspectMembers ms) ++ "\x7d"

/-- The forms of values inside another. -/
def inspectItems : List Json → List String
  | [] => []
  | x :: xs => inspect x :: inspectItems xs

/-- The forms of members. -/
def inspectMembers : List (Text.Raw × Json) → List String
  | [] => []
  | (key, x) :: ms => (Text.quoted key ++ ": " ++ inspect x) :: inspectMembers ms

end

/-- The value with a character in place of every half if it is a text. Inside other values halves
are shown by their codes. -/
def filled (filler : Option Char) : Json → Json
  | torn ps => str ((Text.Raw.torn ps).fill filler)
  | x => x

/-- The form of a value in a line. -/
def display : Json → String
  | str s => s
  | torn ps => (Text.Raw.torn ps).fill none
  | x => inspect x

end Billing.Json
