import Billing.Number.Decimal
import Billing.Text.Blank

/-!
# Reading numbers

A numeral is a sign, digits with an optional point, and an optional decimal exponent; its digits
may be of any script (`Numeral.read?`). Binary64 numbers (`Binary64.read?`) and decimal numbers
(`Decimal.read?`) are read from numerals and from the names of the values that are not finite, with
blanks around them; integers (`Number.readInteger?`) are runs of digits with a sign. An integer or a
binary64 number may have underscores between digits, a decimal anywhere.
-/

namespace Billing

open Text (isDigit)

/-- A numeral taken apart. -/
structure Numeral where
  negative : Bool
  whole : List Char
  fraction : List Char
  exponent : Int
  deriving DecidableEq, Repr

namespace Numeral

/-- The sign in front of a text, and the rest. -/
def readSign : List Char → Bool × List Char
  | '-' :: s => (true, s)
  | '+' :: s => (false, s)
  | s => (false, s)

/-- The digits after a point, if a point follows, and the rest. -/
def readFraction : List Char → List Char × List Char
  | '.' :: s => (s.takeWhile isDigit, s.dropWhile isDigit)
  | s => ([], s)

/-- The exponent that a text writes to its end; an empty text writes zero. -/
def readExponent? : List Char → Option Int
  | [] => some 0
  | c :: s =>
    if c = 'e' ∨ c = 'E' then
      let (negative, ds) := readSign s
      if ds ≠ [] ∧ ds.all isDigit then
        some (if negative then -(Text.digitsValue ds : Int) else Text.digitsValue ds)
      else none
    else none

/-- The numeral that the whole text writes: at least one digit before or after the point. -/
def read? (s : List Char) : Option Numeral :=
  let (negative, s) := readSign s
  let whole := s.takeWhile isDigit
  let (fraction, s) := readFraction (s.dropWhile isDigit)
  if whole = [] ∧ fraction = [] then none
  else (readExponent? s).map (⟨negative, whole, fraction, ·⟩)

/-- All digits read as one integer. -/
def coefficient (x : Numeral) : Nat := Text.digitsValue (x.whole ++ x.fraction)

/-- The power of ten of the last digit. -/
def lastPlace (x : Numeral) : Int := x.exponent - x.fraction.length

/-- The nearest binary64 number. -/
def toBinary64 (x : Numeral) : Binary64 := .ofDecimal x.negative x.coefficient x.lastPlace

/-- The decimal number with the numeral's digits, none for exponents too large to be held. -/
def toDecimal? (x : Numeral) : Option Decimal :=
  let c := x.coefficient
  let e := x.lastPlace
  if -1999999999999999997 ≤ e ∧ e + (Number.digitCount c : Int) - 1 ≤ 999999999999999999 then
    some (.finite x.negative c e)
  else none

end Numeral

/-- ASCII capital letters replaced by small ones. -/
def lowercase (s : List Char) : List Char := s.map Char.toLower

/-- Whether every underscore stands between two digits. -/
def underscoresDivideDigits : List Char → Bool
  | a :: '_' :: b :: s => isDigit a && isDigit b && underscoresDivideDigits (b :: s)
  | a :: s => a != '_' && underscoresDivideDigits s
  | [] => true

/-- Whether a character may stand around a number: a blank, but no information separator. -/
def isMargin (c : Char) : Bool := Text.isBlank c && !(0x1C ≤ c.toNat && c.toNat ≤ 0x1F)

/-- The text of a number without its margins and underscores, which stand between digits. -/
def withoutMargins? (s : List Char) : Option (List Char) :=
  let s := Text.dropRightWhile isMargin (s.dropWhile isMargin)
  if underscoresDivideDigits s then some (s.filter (· != '_')) else none

/-- The integer that a text writes, if it is not too long. -/
def Number.readInteger? (s : List Char) : Option Int :=
  (withoutMargins? s).bind fun s =>
    let (negative, ds) := Numeral.readSign s
    if ds ≠ [] ∧ ds.all isDigit ∧ ds.length ≤ Text.digitLimit then
      let n : Int := Text.digitsValue ds
      some (if negative then -n else n)
    else none

namespace Binary64

/-- The number that a text writes. -/
def read? (s : List Char) : Option Binary64 :=
  (withoutMargins? s).bind fun s =>
    let (negative, name) := Numeral.readSign s
    let name := String.ofList (lowercase name)
    if name = "inf" ∨ name = "infinity" then some (infinity negative)
    else if name = "nan" then some nan
    else (Numeral.read? s).map Numeral.toBinary64

end Binary64

namespace Decimal

/-- The digits that may follow the name of a value that is no number. -/
def readPayload? (ds : List Char) : Option Nat :=
  if ds.all isDigit then some (Text.digitsValue ds) else none

/-- The number that a text writes, exactly. -/
def read? (s : List Char) : Option Decimal :=
  let s := (Text.trim s).filter (· != '_')
  let (negative, rest) := Numeral.readSign s
  let name := lowercase rest
  if name = "inf".toList ∨ name = "infinity".toList then some (infinity negative)
  else if "snan".toList.isPrefixOf name then (readPayload? (rest.drop 4)).map (nan true negative)
  else if "nan".toList.isPrefixOf name then (readPayload? (rest.drop 3)).map (nan false negative)
  else (Numeral.read? s).bind Numeral.toDecimal?

end Decimal

end Billing
