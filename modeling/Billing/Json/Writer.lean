import Billing.Json.Basic
import Billing.Number.Shortest
import Billing.Text.Half
import Billing.Text.Hex

/-!
# Writing JSON

A JSON value as text, on one line (`Json.compact`) or with every item on a line of its own, set in
by two spaces a level (`Json.indented`). Only quotes, backslashes, control characters and halves of
characters are escaped. What cannot be sent is told apart beforehand (`Json.isSendable`).
-/

namespace Billing.Json

/-- The form of a character within a string. -/
def escape (c : Char) : List Char :=
  match c with
  | '"' => ['\\', '"']
  | '\\' => ['\\', '\\']
  | '\n' => ['\\', 'n']
  | '\r' => ['\\', 'r']
  | '\t' => ['\\', 't']
  | '\x08' => ['\\', 'b']
  | '\x0c' => ['\\', 'f']
  | c =>
    if c.toNat < 0x20 then '\\' :: 'u' :: Text.hexDigits 4 c.toNat else [c]

/-- The form of a point within a string. -/
def escapePoint : Text.Point → List Char
  | .char c => escape c
  | .half u => '\\' :: 'u' :: Text.hexDigits 4 u

/-- A string with its quotes. -/
def quote (s : Text.Raw) : String :=
  String.ofList ('"' :: (s.points.flatMap escapePoint) ++ ['"'])

/-- A piece of the text of a value. -/
structure Piece where
  text : String
  /-- Whether the piece can be stored, which half a character cannot. -/
  isWhole : Bool := true

instance : Coe String Piece := ⟨fun text => { text }⟩

/-- The piece of a string. -/
def quotedPiece (s : Text.Raw) : Piece := ⟨quote s, s.isWhole⟩

/-- The text of a number. -/
def floatText : Binary64 → String
  | .nan => "NaN"
  | .infinity false => "Infinity"
  | .infinity true => "-Infinity"
  | x => x.text

/-- The line break and indentation at a depth; nothing on one line. -/
def lineBreak (indent : Bool) (depth : Nat) : String :=
  if indent then "\n" ++ String.ofList (List.replicate (2 * depth) ' ') else ""

/-- Items between brackets, in pieces. -/
def enclose (indent : Bool) (depth : Nat) (opening closing : String) (items : List (List Piece)) :
    List Piece :=
  let separator : String := (if indent then "," else ", ") ++ lineBreak indent (depth + 1)
  if items.isEmpty then [↑(opening ++ closing)]
  else
    (↑opening :: ↑(lineBreak indent (depth + 1)) :: List.intercalate [↑separator] items) ++
      ([↑(lineBreak indent depth), ↑closing] : List Piece)

mutual

/-- The text of a value at a depth, in pieces: every string is a piece of its own. -/
def pieces (indent : Bool) (depth : Nat) : Json → List Piece
  | null => ["null"]
  | bool true => ["true"]
  | bool false => ["false"]
  | int n => [Number.integer n]
  | float x => [floatText x]
  | str s => [quotedPiece s]
  | torn ps => [quotedPiece (.torn ps)]
  | arr xs => enclose indent depth "[" "]" (piecesOfItems indent (depth + 1) xs)
  | obj ms => enclose indent depth "\x7b" "\x7d" (piecesOfMembers indent (depth + 1) ms)

/-- The texts of values, in pieces. -/
def piecesOfItems (indent : Bool) (depth : Nat) : List Json → List (List Piece)
  | [] => []
  | x :: xs => pieces indent depth x :: piecesOfItems indent depth xs

/-- The texts of members, in pieces. -/
def piecesOfMembers (indent : Bool) (depth : Nat) : List (Text.Raw × Json) → List (List Piece)
  | [] => []
  | (key, x) :: ms =>
    (quotedPiece key :: ": " :: pieces indent depth x) :: piecesOfMembers indent depth ms

end

/-- The text that pieces make. -/
def join (pieces : List Piece) : String := String.join (pieces.map (·.text))

/-- The text of a value on one line. -/
def compact (x : Json) : String := join (pieces false 0 x)

/-- The text of a value with every item on a line of its own, in pieces. -/
def indentedPieces (x : Json) : List Piece := pieces true 0 x

/-- The text of a value with every item on a line of its own. -/
def indented (x : Json) : String := join x.indentedPieces

mutual

/-- Whether the value can be sent: its numbers are finite, and its texts are whole. -/
def isSendable : Json → Bool
  | float x => x.isFinite
  | torn _ => false
  | arr xs => areSendable xs
  | obj ms => areSendableMembers ms
  | _ => true

/-- Whether values can be sent. -/
def areSendable : List Json → Bool
  | [] => true
  | x :: xs => isSendable x && areSendable xs

/-- Whether members can be sent. -/
def areSendableMembers : List (Text.Raw × Json) → Bool
  | [] => true
  | (key, x) :: ms => key.isWhole && isSendable x && areSendableMembers ms

end

end Billing.Json
