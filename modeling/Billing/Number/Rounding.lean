import Billing.Number.Positional

/-!
# Rounding quotients

Quotients of natural numbers rounded to the nearest integer, a half to the even neighbour
(`roundDiv`), and the position of the leading digit of a positive rational in base two
(`floorLog2`) and ten (`floorLog10`).
-/

namespace Billing.Number

-- Powers are those of the core library, whichever others are imported.
attribute [local instance (high)] instPowNat

/-- `a / b` rounded to the nearest integer; a half goes to the even neighbour. -/
def roundDiv (a b : Nat) : Nat :=
  let q := a / b
  let r := a % b
  if 2 * r < b then q else if b < 2 * r then q + 1 else q + q % 2

/-- The number of binary digits; zero has none. -/
def bitLength (n : Nat) : Nat := if n = 0 then 0 else n.log2 + 1

/-- The number of decimal digits of a positive number, and one for zero. -/
def digitCount (n : Nat) : Nat := (digits n).length

/-- The integer `k` with `2 ^ k ≤ n / d < 2 ^ (k + 1)`, for positive `n` and `d`. -/
def floorLog2 (n d : Nat) : Int :=
  if d ≤ n then (bitLength (n / d) : Int) - 1 else -(bitLength ((d - 1) / n) : Int)

/-- The integer `k` with `10 ^ k ≤ n / d < 10 ^ (k + 1)`, for positive `n` and `d`. -/
def floorLog10 (n d : Nat) : Int :=
  if d ≤ n then (digitCount (n / d) : Int) - 1 else -(digitCount ((d - 1) / n) : Int)

/-- `n / d` times `b ^ k`, as a quotient of natural numbers. -/
def scale (b n d : Nat) (k : Int) : Nat × Nat :=
  if 0 ≤ k then (n * b ^ k.toNat, d) else (n, d * b ^ (-k).toNat)

theorem roundDiv_one (a : Nat) : roundDiv a 1 = a := by
  simp [roundDiv, Nat.mod_one]

/-- A multiple of the divisor is rounded to its quotient. -/
theorem roundDiv_mul_left {b : Nat} (hb : 0 < b) (a : Nat) : roundDiv (b * a) b = a := by
  simp [roundDiv, Nat.mul_div_cancel_left a hb, hb]

/-- A rounded quotient is the floor or the floor plus one. -/
theorem roundDiv_eq_or (a b : Nat) : roundDiv a b = a / b ∨ roundDiv a b = a / b + 1 := by
  simp only [roundDiv]
  split
  · exact .inl rfl
  · split
    · exact .inr rfl
    · have := Nat.mod_two_eq_zero_or_one (a / b)
      omega

end Billing.Number
