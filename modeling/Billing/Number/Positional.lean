/-!
# Decimal digits of numbers

The digits of a number in base ten (`digits`). A long number is cut in the middle, and each part
again, so that numbers of a million digits can be written too.

* `digits_eq`: these are the digits that dividing by ten again and again gives.
-/

namespace Billing.Number

-- Powers are those of the core library, whichever others are imported.
attribute [local instance (high)] instPowNat

/-- The last `2 ^ k` digits of a number, zeros in front included. -/
def lastDigits : Nat → Nat → List Char
  | 0, n => [Nat.digitChar (n % 10)]
  | k + 1, n => lastDigits k (n / 10 ^ (2 ^ k : Nat)) ++ lastDigits k (n % 10 ^ (2 ^ k : Nat))

/-- The digits of a number, cut first into parts of `2 ^ k` digits. -/
def digitsInParts : Nat → Nat → List Char
  | 0, n => Nat.toDigits 10 n
  | k + 1, n =>
    let part := 10 ^ (2 ^ k : Nat)
    if n < part then digitsInParts k n else digitsInParts k (n / part) ++ lastDigits k (n % part)

/-- The decimal digits of a natural number. -/
def digits (n : Nat) : List Char := digitsInParts (n.log2 + 1).log2 n

/-! ## Cutting digits -/

/-- The last `count` digits of a number, found one by one. -/
def padded : Nat → Nat → List Char
  | 0, _ => []
  | count + 1, n => padded count (n / 10) ++ [Nat.digitChar (n % 10)]

theorem padded_add (a b n : Nat) : padded (a + b) n = padded a (n / 10 ^ b) ++ padded b n := by
  induction b generalizing n with
  | zero => simp [padded]
  | succ b ih =>
    rw [← Nat.add_assoc, padded, ih, padded, Nat.div_div_eq_div_mul, ← Nat.pow_succ',
      List.append_assoc]

theorem padded_mod (b n : Nat) : padded b (n % 10 ^ b) = padded b n := by
  induction b generalizing n with
  | zero => rfl
  | succ b ih =>
    have hd : n % 10 ^ (b + 1) / 10 = n / 10 % 10 ^ b := by
      rw [Nat.pow_succ', Nat.mod_mul_right_div_self]
    have hm : n % 10 ^ (b + 1) % 10 = n % 10 := by
      rw [Nat.pow_succ', Nat.mod_mul_right_mod]
    rw [padded, hd, ih, hm, padded]

theorem lastDigits_eq (k n : Nat) : lastDigits k n = padded (2 ^ k) n := by
  induction k generalizing n with
  | zero => rfl
  | succ k ih =>
    rw [lastDigits, ih, ih, padded_mod, Nat.pow_succ, Nat.mul_two, padded_add]

theorem toDigits_eq_append {m n : Nat} (h : 10 ^ m ≤ n) :
    Nat.toDigits 10 n = Nat.toDigits 10 (n / 10 ^ m) ++ padded m n := by
  induction m generalizing n with
  | zero => simp [padded]
  | succ m ih =>
    have h1 : 10 ^ m ≤ n / 10 := by
      rw [Nat.le_div_iff_mul_le (by omega), ← Nat.pow_succ]
      exact h
    have h10 : 10 ≤ n := by
      have : 1 ≤ 10 ^ m := Nat.one_le_pow _ _ (by omega)
      omega
    rw [Nat.toDigits_of_base_le (by omega) h10, ih h1, Nat.div_div_eq_div_mul, ← Nat.pow_succ',
      padded, List.append_assoc]

theorem digitsInParts_eq (k n : Nat) : digitsInParts k n = Nat.toDigits 10 n := by
  induction k generalizing n with
  | zero => rfl
  | succ k ih =>
    rw [digitsInParts]
    split
    · exact ih n
    · rw [ih, lastDigits_eq, padded_mod, ← toDigits_eq_append (by omega)]

theorem digits_eq (n : Nat) : digits n = Nat.toDigits 10 n := digitsInParts_eq _ n

end Billing.Number
