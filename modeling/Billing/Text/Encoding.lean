import Billing.Text.Half

/-!
# Encodings

A text in bytes is in units of one, two or four bytes each. A text that starts with an ASCII
character shows its encoding by the zeros around it (`Encoding.ofStart`).

* `Encoding.decode?`: the points that bytes write.
-/

namespace Billing.Text

/-- In which order the bytes of a unit stand. -/
inductive ByteOrder where
  | highFirst
  | lowFirst
  deriving DecidableEq, Repr

/-- How a text is written in bytes. -/
inductive Encoding where
  | utf8
  | utf16 (order : ByteOrder)
  | utf32 (order : ByteOrder)
  deriving DecidableEq, Repr

/-- The number that the bytes of a unit write. -/
def ByteOrder.number (order : ByteOrder) (bytes : List UInt8) : Nat :=
  let highFirst := match order with
    | .highFirst => bytes
    | .lowFirst => bytes.reverse
  highFirst.foldl (fun n b => 0x100 * n + b.toNat) 0

/-- The units of two bytes each, unless a byte is left over. -/
def ByteOrder.pairs? (order : ByteOrder) : List UInt8 → Option (List Nat)
  | a :: b :: rest => (pairs? order rest).map (order.number [a, b] :: ·)
  | [] => some []
  | _ => none

/-- The units of four bytes each, unless bytes are left over. -/
def ByteOrder.quartets? (order : ByteOrder) : List UInt8 → Option (List Nat)
  | a :: b :: c :: d :: rest => (quartets? order rest).map (order.number [a, b, c, d] :: ·)
  | [] => some []
  | _ => none

namespace Encoding

/-- The encoding that the zeros at the start of a text show. -/
def ofStart (bytes : List UInt8) : Encoding :=
  match bytes with
  | 0 :: 0 :: _ :: _ :: _ => .utf32 .highFirst
  | 0 :: _ :: _ :: _ :: _ => .utf16 .highFirst
  | _ :: 0 :: 0 :: 0 :: _ => .utf32 .lowFirst
  | _ :: 0 :: _ :: _ :: _ => .utf16 .lowFirst
  | [0, _] => .utf16 .highFirst
  | [_, 0] => .utf16 .lowFirst
  | _ => .utf8

/-- The points that bytes write, unless they break off within a character or write none. Halves of
characters may stand alone in units of two or four bytes. -/
def decode? (encoding : Encoding) (bytes : ByteArray) : Option (List Point) :=
  match encoding with
  | utf8 => (String.fromUTF8? bytes).map (·.toList.map .char)
  | utf16 order => (order.pairs? bytes.toList).map ofUnits
  | utf32 order => do
    let codes ← order.quartets? bytes.toList
    if codes.all (· < 0x110000) then return codes.map ofUnit else none

end Encoding

end Billing.Text
