/-!
# Letters beyond ASCII in ASCII

A text of any characters in ASCII letters, digits and hyphens: its ASCII characters come first, and
behind the last hyphen stand numbers that tell which others go where. A number is written with its
lowest digit first; the digits below which a number ends depend on a bias, which goes with the
numbers before.

* `encode`, `decode?`: a text in ASCII, and the text that is written so.
* `digit?_digitOf`: a digit has the value it was written for.
-/

namespace Billing.Host.Punycode

/-! ## Digits -/

/-- The number of digits. -/
def base : Nat := 36

/-- The digit of a value: letters come before figures. -/
def digitOf (value : Nat) : Char :=
  if value < 26 then Char.ofNat ('a'.toNat + value) else Char.ofNat ('0'.toNat + (value - 26))

/-- The value of a digit. -/
def digit? (c : Char) : Option Nat :=
  if 'a' ≤ c ∧ c ≤ 'z' then some (c.toNat - 'a'.toNat)
  else if '0' ≤ c ∧ c ≤ '9' then some (c.toNat - '0'.toNat + 26)
  else none

theorem digit?_digitOf : ∀ value < 36, digit? (digitOf value) = some value := by decide

/-! ## Numbers -/

/-- The value below which a digit ends a number; `place` is `base` times the digit's place, from one
on. -/
def threshold (place bias : Nat) : Nat := max 1 (min 26 (place - bias))

theorem threshold_bounds (place bias : Nat) :
    1 ≤ threshold place bias ∧ threshold place bias ≤ 26 := by
  rw [threshold]
  omega

/-- The digits of a number from a place on. -/
def number (bias place n : Nat) : List Char :=
  let t := threshold place bias
  if n < t then [digitOf n]
  else digitOf (t + (n - t) % (base - t)) :: number bias (place + base) ((n - t) / (base - t))
termination_by n
decreasing_by
  have ht := threshold_bounds place bias
  have := Nat.div_le_self (n - threshold place bias) (base - threshold place bias)
  omega

/-- A number made small, and the bias that goes with that. -/
def scale (n bias : Nat) : Nat × Nat := if 455 < n then scale (n / 35) (bias + base) else (n, bias)

/-- The bias after a number; `count` characters are in place then. -/
def adapt (n count : Nat) (isFirst : Bool) : Nat :=
  let n := if isFirst then n / 700 else n / 2
  let (n, bias) := scale (n + n / count) 0
  bias + base * n / (n + 38)

/-- The bias before the first number. -/
def firstBias : Nat := 72

/-- The first code beyond ASCII. -/
def firstCode : Nat := 0x80

/-! ## Writing -/

/-- How far a text is written. -/
structure Progress where
  /-- The digits so far. -/
  digits : List Char := []
  /-- How many steps were taken since the last number. -/
  steps : Nat := 0
  bias : Nat := firstBias
  /-- How many characters are in place. -/
  count : Nat

/-- The progress past a character of the text when those with a code are written; there were `ascii`
characters at first. -/
def Progress.pass (ascii code : Nat) (p : Progress) (c : Char) : Progress :=
  if c.toNat < code then { p with steps := p.steps + 1 }
  else if c.toNat = code then
    { digits := p.digits ++ number p.bias base p.steps
      steps := 0
      bias := adapt p.steps (p.count + 1) (p.count = ascii)
      count := p.count + 1 }
  else p

/-- The progress once the characters with these codes are written, after the codes below `code`. -/
def Progress.write (text : List Char) (ascii : Nat) : Nat → List Nat → Progress → Progress
  | _, [], p => p
  | code, next :: codes, p =>
    let p := { p with steps := p.steps + (next - code) * (p.count + 1) }
    let p := text.foldl (Progress.pass ascii next) p
    write text ascii (next + 1) codes { p with steps := p.steps + 1 }

/-- A text in ASCII. -/
def encode (text : List Char) : List Char :=
  let (ascii, others) := text.partition (·.toNat < firstCode)
  let codes := ((others.map Char.toNat).mergeSort fun a b => a ≤ b).eraseDups
  let digits := (Progress.write text ascii.length firstCode codes { count := ascii.length }).digits
  if ascii.isEmpty then digits else ascii ++ '-' :: digits

/-! ## Reading -/

/-- How far a text is read. -/
structure Reading where
  text : List Char
  /-- The code that was put in place last. -/
  code : Nat := firstCode
  /-- Where the next character is put if its number is zero. -/
  position : Nat := 0
  bias : Nat := firstBias
  isFirst : Bool := true

/-- The reading after a number, unless it leads beyond the last code. A code that is no character
counts as the code zero. -/
def Reading.put? (r : Reading) (n : Nat) : Option Reading :=
  let count := r.text.length + 1
  let code := r.code + (r.position + n) / count
  let position := (r.position + n) % count
  if 0x10FFFF < code then none
  else
    some {
      text := r.text.take position ++ Char.ofNat code :: r.text.drop position
      code
      position := position + 1
      bias := adapt n count r.isFirst
      isFirst := false }

/-- The reading after digits; those of the number at hand have the value `n`, and its next digit has
the weight `weight`. -/
def Reading.read? (r : Reading) (place weight n : Nat) : List Char → Option Reading
  | [] => if place = base then some r else none
  | c :: s =>
    match digit? c with
    | none => none
    | some value =>
      let n := n + value * weight
      let t := threshold place r.bias
      if value < t then (r.put? n).bind fun r => r.read? base 1 0 s
      else r.read? (place + base) (weight * (base - t)) n s

/-- The text that ASCII characters write. -/
def decode? (s : List Char) : Option (List Char) :=
  let digits := (s.reverse.takeWhile (· != '-')).reverse
  let text := s.take (s.length - digits.length - 1)
  (Reading.read? { text } base 1 0 digits).map (·.text)

end Billing.Host.Punycode
