import Billing.Number.Binary64
import Billing.Number.Digits

/-!
# Binary64 numbers as text

A binary64 number is written with the fewest decimal digits that read back as the same number, and
among those with the ones nearest to it (`Magnitude.shortest`). The digits are set out positionally
for decimal exponents from -4 to 15 and with an exponent otherwise (`Binary64.text`), or with a
fixed number of places (`Binary64.fixed`).
-/

namespace Billing

-- Powers are those of the core library, whichever others are imported.
attribute [local instance (high)] instPowNat

/-- A decimal value `coefficient · 10 ^ exponent`. -/
structure Digits where
  coefficient : Nat
  exponent : Int
  deriving DecidableEq, Repr

namespace Digits

/-- The magnitude nearest to the value. -/
def nearest? (x : Digits) : Option Magnitude :=
  let s := Number.scale 10 x.coefficient 1 x.exponent
  Magnitude.nearest? s.1 s.2

/-- The value without trailing zeros in its coefficient. -/
def trimmed (x : Digits) : Digits :=
  if x.coefficient = 0 then ⟨0, 0⟩
  else if x.coefficient % 10 = 0 then trimmed ⟨x.coefficient / 10, x.exponent + 1⟩
  else x
termination_by x.coefficient
decreasing_by omega

end Digits

namespace Magnitude

/-- The exact value as a quotient. -/
def quotient (x : Magnitude) : Nat × Nat := Number.scale 2 x.mantissa 1 x.exponent

/-- The exact value in decimal digits: a negative power of two is a power of five over one of
ten. -/
def exactDigits (x : Magnitude) : Digits :=
  if 0 ≤ x.exponent then ⟨x.mantissa * 2 ^ x.exponent.toNat, 0⟩
  else ⟨x.mantissa * 5 ^ (-x.exponent).toNat, x.exponent⟩

/-- The neighbours of the magnitude among the values of `places` significant digits, the nearer
first; of two equally near ones, the one with the even last digit. -/
def neighbours (x : Magnitude) (places : Nat) : List Digits :=
  let q := x.quotient
  let e := Number.floorLog10 q.1 q.2 + 1 - places
  let s := Number.scale 10 q.1 q.2 (-e)
  let below := s.1 / s.2
  let near := Number.roundDiv s.1 s.2
  let far := if near = below then below + 1 else below
  [⟨near, e⟩, ⟨far, e⟩]

/-- The fewest digits that read back as the magnitude; the nearest to it of these. -/
def shortest (x : Magnitude) : Digits :=
  ((List.range 17).findSome? fun k =>
    (x.neighbours (k + 1)).find? fun d => d.nearest? = some x).getD x.exactDigits |>.trimmed

end Magnitude

namespace Binary64

/-- The digits of a decimal value set out without an exponent: `places` digits after the point. -/
def positional (coefficient places : Nat) : List Char × List Char :=
  let s := Number.digits coefficient
  let s := List.replicate (places + 1 - s.length) '0' ++ s
  (s.take (s.length - places), s.drop (s.length - places))

/-- Integer digits, a point and fraction digits of the number, or a leading digit, the digits after
its point and the decimal exponent: numbers below `10 ^ -4` and from `10 ^ 16` have an exponent. -/
def layout (x : Magnitude) : List Char × List Char × Option Int :=
  if x.mantissa = 0 then (['0'], ['0'], none) else
    let d := x.shortest
    let s := Number.digits d.coefficient
    let e := d.exponent + s.length - 1
    if -4 ≤ e && e < 16 then
      if 0 ≤ d.exponent then (s ++ List.replicate d.exponent.toNat '0', ['0'], none)
      else
        let p := positional d.coefficient (-d.exponent).toNat
        (p.1, p.2, none)
    else (s.take 1, s.drop 1, some e)

/-- An exponent with its sign and at least two digits. -/
def exponentText (e : Int) : List Char :=
  let s := Number.digits e.natAbs
  (if e < 0 then '-' else '+') :: (List.replicate (2 - s.length) '0' ++ s)

/-- The text of a magnitude, its integer digits changed by `f`. -/
def magnitudeText (f : List Char → List Char) (x : Magnitude) : List Char :=
  match layout x with
  | (whole, fraction, none) => f whole ++ '.' :: fraction
  | (whole, [], some e) => f whole ++ 'e' :: exponentText e
  | (whole, fraction, some e) => f whole ++ '.' :: fraction ++ 'e' :: exponentText e

/-- The text of a number, the integer digits of its magnitude changed by `f`. -/
def textWith (f : List Char → List Char) : Binary64 → String
  | finite s m => Number.signed s (magnitudeText f m)
  | infinity s => if s then "-inf" else "inf"
  | nan => "nan"

/-- The text of a number: its shortest digits. -/
def text (x : Binary64) : String := textWith id x

/-- The text of a number with the integer digits in groups of three. -/
def grouped (x : Binary64) : String := textWith Number.group x

/-- The exact value rounded to `places` digits after the point, a half to the even digit. No zero
is negative. -/
def fixed (places : Nat) : Binary64 → String
  | finite s m =>
    let q := m.quotient
    let n := Number.roundDiv (q.1 * 10 ^ places) q.2
    let p := positional n places
    Number.signed (s && n != 0) (p.1 ++ '.' :: p.2)
  | infinity s => if s then "-inf" else "inf"
  | nan => "nan"

end Binary64

end Billing
