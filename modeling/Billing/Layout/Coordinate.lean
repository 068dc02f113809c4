import Billing.Number.Binary64

/-!
# Coordinates

Lengths on a page are reckoned in an arithmetic that is left open (`Coordinate`): binary64 numbers
when a document is drawn, exact rationals where only the geometry matters.
-/

namespace Billing

/-- An arithmetic of lengths. -/
class Coordinate (α : Type) extends Add α, Sub α, Mul α where
  /-- The length that a rational number stands for. -/
  ofRat : Rat → α
  /-- A length divided by a count. -/
  divCount : α → Nat → α
  lt : α → α → Bool
  le : α → α → Bool
  /-- How often a length fits into another one, rounded down. -/
  floorQuotient : α → α → Except Fault Int

namespace Coordinate

variable {α : Type} [Coordinate α]

/-- A count as a length. -/
def ofCount (n : Nat) : α := ofRat n

/-- The greater of two lengths; of lengths that do not compare, the first. -/
def greater (x y : α) : α := if lt x y then y else x

/-- The smaller of two lengths; of lengths that do not compare, the first. -/
def smaller (x y : α) : α := if lt y x then y else x

end Coordinate

/-- A length in points. -/
def pt {α : Type} [Coordinate α] (q : Rat) : α := Coordinate.ofRat q

instance : Coordinate Binary64 where
  ofRat := Binary64.ofRat
  divCount x n := x / Binary64.ofInt n
  lt := Binary64.lt
  le := Binary64.le
  floorQuotient := Binary64.floorQuotient

instance : Coordinate Rat where
  ofRat := id
  divCount x n := x / n
  lt x y := x < y
  le x y := x ≤ y
  floorQuotient x y := if y = 0 then .error .zeroDivisor else .ok (x / y).floor

end Billing
