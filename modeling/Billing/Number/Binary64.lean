import Billing.Fault
import Billing.Number.Rounding

/-!
# Binary64 numbers

The numbers of the binary64 interchange format, each held by its exact value: a sign, a mantissa
below `2 ^ 53` and a power of two, or an infinity, or not a number. Every operation computes the
exact result and rounds it once, to the nearest number of the format, a half to the even mantissa.

* `Magnitude`: the finite magnitudes; the type admits one representation of each value.
* `Binary64.ofRat`: the number nearest to a rational.
* `Binary64.floorQuotient`: division rounded down to an integer, in the format's arithmetic.
-/

namespace Billing

-- Powers are those of the core library, whichever others are imported.
attribute [local instance (high)] instPowNat

/-- The pairs `(m, e)` that represent a magnitude `m · 2 ^ e`: normal ones have 53 binary digits,
the others the smallest exponent. -/
def IsCanonical (mantissa : Nat) (exponent : Int) : Prop :=
  mantissa < 2 ^ (53 : Nat) ∧ -1074 ≤ exponent ∧ exponent ≤ 971 ∧
    (2 ^ (52 : Nat) ≤ mantissa ∨ exponent = -1074)

instance (m : Nat) (e : Int) : Decidable (IsCanonical m e) := by
  unfold IsCanonical; infer_instance

/-- The finite magnitude `mantissa · 2 ^ exponent`. -/
structure Magnitude where
  mantissa : Nat
  exponent : Int
  canonical : IsCanonical mantissa exponent
  deriving DecidableEq

namespace Magnitude

/-- The magnitude with this mantissa and exponent, if they represent one. -/
def of? (m : Nat) (e : Int) : Option Magnitude :=
  if h : IsCanonical m e then some ⟨m, e, h⟩ else none

/-- The magnitude zero. -/
def zero : Magnitude := ⟨0, -1074, by decide⟩

instance : Inhabited Magnitude := ⟨zero⟩

/-- The exact value. -/
def toRat (x : Magnitude) : Rat := (x.mantissa : Rat) * (2 : Rat) ^ x.exponent

/-- The exponent of the last binary digit kept of the positive quotient `n / d`. -/
def lastPlace (n d : Nat) : Int := max (Number.floorLog2 n d - 52) (-1074)

/-- The magnitude nearest to `n / d`, a half to the even mantissa; none beyond the largest. -/
def nearest? (n d : Nat) : Option Magnitude :=
  if n = 0 then some zero else
    let e := lastPlace n d
    let s := Number.scale 2 n d (-e)
    let m := Number.roundDiv s.1 s.2
    if m = 2 ^ (53 : Nat) then of? (2 ^ (52 : Nat)) (e + 1) else of? m e

end Magnitude

/-- The numbers of the binary64 format. The two zeros are different numbers. -/
inductive Binary64 where
  | finite (negative : Bool) (magnitude : Magnitude)
  | infinity (negative : Bool)
  | nan
  deriving DecidableEq

namespace Binary64

/-- Zero with a sign. -/
def signedZero (negative : Bool) : Binary64 := finite negative .zero

instance : Inhabited Binary64 := ⟨signedZero false⟩

/-- The number of a sign nearest to `n / d`; an infinity beyond the largest. -/
def ofQuotient (negative : Bool) (n d : Nat) : Binary64 :=
  match Magnitude.nearest? n d with
  | some m => finite negative m
  | none => infinity negative

/-- The number nearest to a rational. -/
def ofRat (q : Rat) : Binary64 := ofQuotient (q.num < 0) q.num.natAbs q.den

instance (n : Nat) : OfNat Binary64 n := ⟨ofQuotient false n 1⟩

/-- The number nearest to an integer. -/
def ofInt (n : Int) : Binary64 := ofQuotient (n < 0) n.natAbs 1

/-- The number nearest to `± coefficient · 10 ^ exponent`. Powers of ten far outside the format
are decided by their size alone. -/
def ofDecimal (negative : Bool) (coefficient : Nat) (exponent : Int) : Binary64 :=
  if coefficient = 0 then signedZero negative
  else if 400 < exponent then infinity negative
  else if exponent + (coefficient.log2 / 3 + 2 : Nat) < -400 then signedZero negative
  else
    let s := Number.scale 10 coefficient 1 exponent
    ofQuotient negative s.1 s.2

/-- The exact value of a finite number; zero for the others. -/
def toRat : Binary64 → Rat
  | finite false m => m.toRat
  | finite true m => -m.toRat
  | _ => 0

def isFinite : Binary64 → Bool
  | finite _ _ => true
  | _ => false

def isNaN : Binary64 → Bool
  | nan => true
  | _ => false

/-- Whether the sign is negative, also of a zero. -/
def signBit : Binary64 → Bool
  | finite s _ => s
  | infinity s => s
  | nan => false

/-- Whether the number is one of the two zeros. -/
def isZero : Binary64 → Bool
  | finite _ m => m.mantissa == 0
  | _ => false

def neg : Binary64 → Binary64
  | finite s m => finite (!s) m
  | infinity s => infinity (!s)
  | nan => nan

/-- An exact zero as the sum of two numbers is negative only if both are. -/
def add : Binary64 → Binary64 → Binary64
  | nan, _ => nan
  | _, nan => nan
  | infinity s, infinity t => if s = t then infinity s else nan
  | infinity s, _ => infinity s
  | _, infinity t => infinity t
  | finite s x, finite t y =>
    if x.mantissa = 0 && y.mantissa = 0 then signedZero (s && t)
    else ofRat ((finite s x).toRat + (finite t y).toRat)

def sub (x y : Binary64) : Binary64 := add x y.neg

def mul : Binary64 → Binary64 → Binary64
  | nan, _ => nan
  | _, nan => nan
  | infinity s, y => if y.isZero then nan else infinity (s != y.signBit)
  | x, infinity t => if x.isZero then nan else infinity (x.signBit != t)
  | finite s x, finite t y =>
    let q := x.toRat * y.toRat
    ofQuotient (s != t) q.num.natAbs q.den

def div : Binary64 → Binary64 → Binary64
  | nan, _ => nan
  | _, nan => nan
  | infinity _, infinity _ => nan
  | infinity s, y => infinity (s != y.signBit)
  | x, infinity t => signedZero (x.signBit != t)
  | finite s x, finite t y =>
    if y.mantissa = 0 then if x.mantissa = 0 then nan else infinity (s != t)
    else
      let q := x.toRat / y.toRat
      ofQuotient (s != t) q.num.natAbs q.den

instance : Add Binary64 := ⟨add⟩
instance : Sub Binary64 := ⟨sub⟩
instance : Mul Binary64 := ⟨mul⟩
instance : Div Binary64 := ⟨div⟩
instance : Neg Binary64 := ⟨neg⟩

/-- `x < y` as numbers: the zeros are equal, and nothing compares with what is no number. -/
def lt : Binary64 → Binary64 → Bool
  | nan, _ => false
  | _, nan => false
  | infinity s, infinity t => s && !t
  | infinity s, _ => s
  | _, infinity t => !t
  | x, y => x.toRat < y.toRat

/-- `x ≤ y` as numbers. -/
def le : Binary64 → Binary64 → Bool
  | nan, _ => false
  | _, nan => false
  | infinity s, infinity t => s || !t
  | infinity s, _ => s
  | _, infinity t => !t
  | x, y => x.toRat ≤ y.toRat

/-- Whether the number is finite and an integer. -/
def isInteger : Binary64 → Bool
  | x@(finite _ _) => x.toRat.den == 1
  | _ => false

/-- The largest integer not above the number. -/
def floor : Binary64 → Except Fault Int
  | nan => .error .notANumber
  | infinity _ => .error .infinite
  | x => .ok x.toRat.floor

/-- The remainder of a division by a nonzero number, with the sign of the dividend. -/
def remainder : Binary64 → Binary64 → Binary64
  | x@(finite s _), y@(finite _ _) =>
    let q := x.toRat / y.toRat
    let r := x.toRat - y.toRat * (if 0 ≤ q then q.floor else q.ceil : Int)
    if r = 0 then signedZero s else ofRat r
  | x@(finite _ _), infinity _ => x
  | _, _ => nan

/-- `x / y` rounded down, as an integer. The quotient is taken after the remainder is subtracted,
each step rounded to the format. -/
def floorQuotient (x y : Binary64) : Except Fault Int :=
  if y.isZero then .error .zeroDivisor else
    let r := remainder x y
    let q := (x - r) / y
    let q := if !r.isZero && r.signBit != y.signBit then q - 1 else q
    q.floor >>= fun f =>
      .ok (if lt (ofRat (1 / 2)) (q - ofInt f) then f + 1 else f)

end Binary64

end Billing
