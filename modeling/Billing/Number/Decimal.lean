import Billing.Fault
import Billing.Number.Shortest

/-!
# Decimal arithmetic

Decimal numbers with a sign, a coefficient and a power of ten, infinities and values that are no
number. The product and the quotient are exact and then rounded once to 28 significant digits, a
half to the even digit; exponents stay between the limits of the arithmetic (`Decimal.rounded`).

* `Decimal.mul`, `Decimal.div`, `Decimal.floor`, `Decimal.normalize`: the operations.
* `Decimal.text`: the text that keeps the coefficient's digits; `Decimal.plainText`: the same
  without an exponent.
-/

namespace Billing

-- Powers are those of the core library, whichever others are imported.
attribute [local instance (high)] instPowNat

/-- A decimal number. A value that is no number may be a signal, which no operation takes, and
carries digits. -/
inductive Decimal where
  | finite (negative : Bool) (coefficient : Nat) (exponent : Int)
  | infinity (negative : Bool)
  | nan (signal : Bool) (negative : Bool) (payload : Nat)
  deriving DecidableEq, Repr

namespace Decimal

/-- Significant digits of a result. -/
def precision : Nat := 28

/-- The largest exponent of a leading digit. -/
def maxExponent : Int := 999999

/-- The smallest exponent of a leading digit with full precision. -/
def minExponent : Int := -999999

/-- The smallest exponent of a last digit. -/
def minPlace : Int := minExponent - (precision - 1)

/-- The exact value of a finite number; zero for the others. -/
def toRat : Decimal → Rat
  | finite s c e => (if s then -1 else 1) * (c : Rat) * (10 : Rat) ^ e
  | _ => 0

/-- The coefficient in units of `10 ^ k`, a half to the even digit. A unit far above the coefficient
leaves nothing of it. -/
def rescale (c : Nat) (k : Nat) : Nat :=
  if Number.digitCount c < k then 0 else Number.roundDiv c (10 ^ k)

theorem rescale_eq (c k : Nat) : rescale c k = Number.roundDiv c (10 ^ k) := by
  unfold rescale
  split
  · rename_i h
    have hc : c < 10 ^ Number.digitCount c := by
      rw [Number.digitCount, Number.digits_eq]
      exact (Nat.length_toDigits_le_iff (by omega) Nat.length_toDigits_pos).1 (Nat.le_refl _)
    have hk : 10 * 10 ^ Number.digitCount c ≤ 10 ^ k := by
      rw [← Nat.pow_succ']
      exact Nat.pow_le_pow_right (by omega) h
    have hlt : c < 10 ^ k := by omega
    rw [Number.roundDiv, Nat.div_eq_of_lt hlt, Nat.mod_eq_of_lt hlt, if_pos (by omega)]
  · rfl

/-- The number as a result of the arithmetic: at most 28 significant digits, the last one not
below the smallest place. -/
def rounded (negative : Bool) (c : Nat) (e : Int) : Except Fault Decimal :=
  if c = 0 then .ok (finite negative 0 (max minPlace (min maxExponent e)))
  else
    let place := max (e + (Number.digitCount c - precision : Nat)) minPlace
    let (c, e) := if e < place then (rescale c (place - e).toNat, place) else (c, e)
    let (c, e) := if c = 10 ^ precision then (10 ^ (precision - 1), e + 1) else (c, e)
    if c ≠ 0 && maxExponent < e + (Number.digitCount c : Int) - 1 then .error .decimalOverflow
    else .ok (finite negative c e)

/-- What an operation makes of operands of which one is no number: signals are refused, and of the
others the first is the result, with as many of its digits as a coefficient has. -/
def notANumber (x y : Decimal) : Except Fault Decimal :=
  match x, y with
  | nan true .., _ => .error .invalidOperation
  | _, nan true .. => .error .invalidOperation
  | nan false s p, _ => .ok (nan false s (p % 10 ^ precision))
  | _, nan false s p => .ok (nan false s (p % 10 ^ precision))
  | _, _ => .error .invalidOperation

def isZero : Decimal → Bool
  | finite _ c _ => c == 0
  | _ => false

def signBit : Decimal → Bool
  | finite s _ _ => s
  | infinity s => s
  | nan _ s _ => s

def mul : Decimal → Decimal → Except Fault Decimal
  | finite s c e, finite t d f => rounded (s != t) (c * d) (e + f)
  | infinity s, infinity t => .ok (infinity (s != t))
  | infinity s, y@(finite t _ _) =>
    if y.isZero then .error .invalidOperation else .ok (infinity (s != t))
  | x@(finite s _ _), infinity t =>
    if x.isZero then .error .invalidOperation else .ok (infinity (s != t))
  | x, y => notANumber x y

/-- One hundredth of the number. -/
def hundredth : Decimal → Except Fault Decimal
  | finite s c e => rounded s c (e - 2)
  | infinity s => .ok (infinity s)
  | x => notANumber x x

/-- The integer as a decimal number. -/
def ofInt (n : Int) : Decimal := finite (n < 0) n.natAbs 0

/-- The decimal value of the shortest digits of a binary64 number. -/
def ofBinary64 : Binary64 → Decimal
  | .finite s m =>
    if m.mantissa = 0 then finite s 0 0
    else
      let d := m.shortest
      finite s d.coefficient d.exponent
  | .infinity s => infinity s
  | .nan => nan false false 0

/-- The largest integer not above the number. -/
def floor : Decimal → Except Fault Int
  | finite s c e =>
    let n : Int := if s then -c else c
    if 0 ≤ e then .ok (n * 10 ^ e.toNat) else .ok (Int.fdiv n (10 ^ (-e).toNat))
  | infinity _ => .error .infinite
  | nan .. => .error .notANumber

/-- The number without trailing zeros in its coefficient; a zero keeps its sign only. -/
def normalize (x : Decimal) : Decimal :=
  match x with
  | finite s c e =>
    let d := Digits.trimmed ⟨c, e⟩
    finite s d.coefficient d.exponent
  | x => x

/-- The text of a number that is not finite. -/
def specialText : Decimal → String
  | infinity s => if s then "-Infinity" else "Infinity"
  | nan signal s p =>
    (if s then "-" else "") ++ (if signal then "sNaN" else "NaN") ++
      (if p = 0 then "" else Number.integer p)
  | finite .. => ""

/-- The text with an exponent unless the last digit's place is not above the units and the number
is not below `10 ^ -6`. -/
def text : Decimal → String
  | finite s c e =>
    let ds := Number.digits c
    let lead := e + ds.length - 1
    if e ≤ 0 && -6 ≤ lead then
      if e = 0 then Number.signed s ds
      else
        let p := Binary64.positional c (-e).toNat
        Number.signed s (p.1 ++ '.' :: p.2)
    else
      let power := (if lead < 0 then '-' else '+') :: Number.digits lead.natAbs
      match ds with
      | [d] => Number.signed s (d :: 'E' :: power)
      | d :: ds => Number.signed s (d :: '.' :: ds ++ 'E' :: power)
      | [] => ""
  | x => specialText x

/-- The text without an exponent. -/
def plainText : Decimal → String
  | finite s c e =>
    if 0 ≤ e then Number.signed s (Number.digits (c * 10 ^ e.toNat))
    else
      let p := Binary64.positional c (-e).toNat
      Number.signed s (p.1 ++ '.' :: p.2)
  | x => specialText x

end Decimal

end Billing
