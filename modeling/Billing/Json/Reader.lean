import Billing.Json.Basic
import Billing.Number.Digits
import Billing.Number.Numeral
import Billing.Text.Half
import Billing.Text.Hex

/-!
# Reading JSON

`Json.read` reads a text that holds one JSON value. The names of the numbers that are not finite
are values too, control characters in strings are refused, and of two members of one name the last
counts. Arrays and objects stand inside each other at most `nestingLimit` deep. A failure tells how
much of the text was left where it arose. Some characters of a text may stand for halves of
characters (`Text.Fillers`); what an escape names is never one of them.
-/

namespace Billing.Json

/-- Why a text is no JSON value. -/
inductive ReadError where
  /-- The text breaks the grammar `rest` characters before its end. -/
  | malformed (rest : Nat)
  /-- An integer has too many digits. -/
  | digitLimit
  /-- Too many arrays and objects stand inside each other. -/
  | nestingLimit
  deriving DecidableEq, Repr

/-- What a reader makes of the start of a text: a value and the rest. -/
abbrev Reading (α : Type) := Except ReadError (α × List Char)

/-- The failure at the start of `rest`. -/
def fail {α : Type} (rest : List Char) : Reading α := .error (.malformed rest.length)

/-- The characters that may stand between the parts of a value. -/
def isSpace (c : Char) : Bool := c == ' ' || c == '\t' || c == '\n' || c == '\r'

/-- The rest of a text after its spaces. -/
def skipSpaces (s : List Char) : List Char := s.dropWhile isSpace

/-- The character that stands for another after a backslash. -/
def unescape? : Char → Option Char
  | '"' => some '"'
  | '\\' => some '\\'
  | '/' => some '/'
  | 'b' => some '\x08'
  | 'f' => some '\x0c'
  | 'n' => some '\n'
  | 'r' => some '\r'
  | 't' => some '\t'
  | _ => none

/-- The rest of a string after `done`, which is held in reverse; `start` is the text from the
opening quote on, where an unfinished string fails. -/
def readChars (fillers : Text.Fillers) (start : List Char) (done : List Text.Point) :
    List Char → Reading Text.Raw
  | [] => fail start
  | '"' :: s => .ok (.ofPoints done.reverse, s)
  | '\\' :: 'u' :: a :: b :: c :: d :: s =>
    match s, Text.hexNumber? [a, b, c, d] with
    | [], _ => fail ('u' :: a :: b :: c :: d :: s)
    | s@('\\' :: 'u' :: e :: f :: g :: h :: x :: t), some u =>
      if Text.isHighHalf u then
        match Text.hexNumber? [e, f, g, h] with
        | some v =>
          if Text.isLowHalf v then
            readChars fillers start (.char (Text.joinHalves u v) :: done) (x :: t)
          else readChars fillers start (Text.ofUnit u :: done) s
        | none => fail s.tail
      else readChars fillers start (Text.ofUnit u :: done) s
    | s, some u => readChars fillers start (Text.ofUnit u :: done) s
    | s, none => fail ('u' :: a :: b :: c :: d :: s)
  | '\\' :: 'u' :: s => fail ('u' :: s)
  | '\\' :: c :: s =>
    match unescape? c with
    | some c => readChars fillers start (.char c :: done) s
    | none => fail ('\\' :: c :: s)
  | ['\\'] => fail start
  | c :: s =>
    if c.toNat < 0x20 then fail (c :: s) else readChars fillers start (fillers.point c :: done) s
termination_by s => s.length
decreasing_by
  all_goals
    simp_all only [namedPattern, List.length_cons]
    omega

/-- The string whose opening quote is the first character of `start`. -/
def readString (fillers : Text.Fillers) (start : List Char) : Reading Text.Raw :=
  readChars fillers start [] start.tail

/-- Whether the character is an ASCII digit. -/
def isAsciiDigit (c : Char) : Bool := '0' ≤ c && c ≤ '9'

/-- The integer digits of a number: a zero alone, or digits that start with another. -/
def readWhole : List Char → List Char × List Char
  | '0' :: s => (['0'], s)
  | s => (s.takeWhile isAsciiDigit, s.dropWhile isAsciiDigit)

/-- The digits after a point, if a point and a digit follow. -/
def readFraction (s : List Char) : List Char × List Char :=
  match s with
  | '.' :: t =>
    if t.takeWhile isAsciiDigit = [] then ([], s)
    else (t.takeWhile isAsciiDigit, t.dropWhile isAsciiDigit)
  | _ => ([], s)

/-- The power of ten that follows, if one does. -/
def readPower (s : List Char) : Option Int × List Char :=
  match s with
  | c :: t =>
    if c = 'e' ∨ c = 'E' then
      let (negative, ds) := Numeral.readSign t
      let power := ds.takeWhile isAsciiDigit
      if power = [] then (none, s)
      else
        let n : Int := Text.digitsValue power
        (some (if negative then -n else n), ds.dropWhile isAsciiDigit)
    else (none, s)
  | [] => (none, s)

/-- The number at the start of a text: an integer unless a fraction or a power follows. -/
def readNumber (s : List Char) : Reading Json :=
  let (negative, t) := match s with
    | '-' :: t => (true, t)
    | t => (false, t)
  let (whole, t) := readWhole t
  if whole = [] then fail s
  else
    let (fraction, t) := readFraction t
    let (power, t) := readPower t
    if fraction = [] ∧ power = none then
      if whole.length ≤ Text.digitLimit then
        let n : Int := Text.digitsValue whole
        .ok (.int (if negative then -n else n), t)
      else .error .digitLimit
    else
      let x : Numeral := ⟨negative, whole, fraction, power.getD 0⟩
      .ok (.float x.toBinary64, t)

/-- The words that are values. -/
def words : List (List Char × Json) :=
  [("null".toList, .null), ("true".toList, .bool true), ("false".toList, .bool false),
    ("NaN".toList, .float .nan), ("Infinity".toList, .float (.infinity false)),
    ("-Infinity".toList, .float (.infinity true))]

/-- The word or number at the start of a text. -/
def readScalar (s : List Char) : Reading Json :=
  match words.find? (·.1.isPrefixOf s) with
  | some (word, value) => .ok (value, s.drop word.length)
  | none => readNumber s

mutual

/-- The value at the start of a text, which has no spaces in front; `depth` arrays and objects may
stand inside each other in it. -/
def readValue (fillers : Text.Fillers) : Nat → Nat → List Char → Reading Json
  | 0, _, s => fail s
  | fuel + 1, depth, s =>
    match s, depth with
    | '"' :: _, _ => (readString fillers s).map fun (x, s) => (.ofRaw x, s)
    | '[' :: _, 0 | '{' :: _, 0 => .error .nestingLimit
    | '[' :: s, depth + 1 =>
      match skipSpaces s with
      | ']' :: s => .ok (.arr [], s)
      | s => readItems fillers fuel depth [] s
    | '{' :: s, depth + 1 =>
      match skipSpaces s with
      | '}' :: s => .ok (.obj [], s)
      | s => readMembers fillers fuel depth [] s
    | s, _ => readScalar s

/-- The items of an array from the next one to its closing bracket, after the items `done`, which
are held in reverse. -/
def readItems (fillers : Text.Fillers) : Nat → Nat → List Json → List Char → Reading Json
  | 0, _, _, s => fail s
  | fuel + 1, depth, done, s =>
    match readValue fillers fuel depth s with
    | .error e => .error e
    | .ok (x, s) =>
      match skipSpaces s with
      | ']' :: s => .ok (.arr (x :: done).reverse, s)
      | ',' :: s => readItems fillers fuel depth (x :: done) (skipSpaces s)
      | s => fail s

/-- The members of an object from the next one to its closing brace, after the members `done`. -/
def readMembers (fillers : Text.Fillers) :
    Nat → Nat → List (Text.Raw × Json) → List Char → Reading Json
  | 0, _, _, s => fail s
  | fuel + 1, depth, done, s =>
    match readMember fillers fuel depth s with
    | .error e => .error e
    | .ok ((key, x), s) =>
      match skipSpaces s with
      | '}' :: s => .ok (.obj (put key x done), s)
      | ',' :: s => readMembers fillers fuel depth (put key x done) (skipSpaces s)
      | s => fail s

/-- The name and the value of the member at the start of a text. -/
def readMember (fillers : Text.Fillers) : Nat → Nat → List Char → Reading (Text.Raw × Json)
  | 0, _, s => fail s
  | fuel + 1, depth, s =>
    match s with
    | '"' :: _ =>
      match readString fillers s with
      | .error e => .error e
      | .ok (key, s) =>
        match skipSpaces s with
        | ':' :: s => (readValue fillers fuel depth (skipSpaces s)).map fun (x, s) => ((key, x), s)
        | s => fail s
    | s => fail s

end

/-- How deep arrays and objects may stand inside each other. -/
def nestingLimit : Nat := 960

/-- The value that the whole text writes, at most `depth` arrays and objects deep. A byte order mark
is no part of a value. -/
def readNested (fillers : Text.Fillers) (depth : Nat) (s : List Char) : Except ReadError Json := do
  let (x, rest) ← readValue fillers (3 * s.length + 3) depth (skipSpaces s)
  match skipSpaces rest with
  | [] => .ok x
  | rest => .error (.malformed rest.length)

/-- The value that the whole text writes. -/
def read (s : String) : Except ReadError Json := readNested [] nestingLimit s.toList

end Billing.Json
