import Billing.Command.Usage
import Billing.Document.Basic
import Billing.Text.Digit

/-!
# Arguments of the command

The words of a command line are first told apart (`tellApart`): flags, which may be shortened to
any beginning that fits one flag only, values, and the separator after which every word is a value.
Then the values are given to the flags before them, and the first one left over names the sheet
(`gather`). Of a flag that is given twice the last value counts. What is wrong with a word shows
before anything that is missing, and that before words without a meaning.

* `Arguments.read`: the arguments that a command line gives.
-/

namespace Billing.Command

/-- What a word of the command line is. -/
inductive Word where
  | value
  /-- Every word after the separator is a value. -/
  | separator
  /-- A flag, with the value that is attached to it by an equals sign. -/
  | flag (flag : Flag) (attached : Option String)
  /-- The letter of the help flag with more letters behind. -/
  | bundle (letters : List Char)
  | unknown
  deriving DecidableEq, Repr

/-- A word cut at its first equals sign. -/
def cutAttached (word : List Char) : List Char × Option (List Char) :=
  match word.dropWhile (· != '=') with
  | [] => (word, none)
  | _ :: value => (word.takeWhile (· != '='), some value)

/-- A dash with a number behind: digits with at most one point, which has digits behind. A newline
may end it. -/
def isNegativeNumber (word : List Char) : Bool :=
  match word with
  | '-' :: number =>
    let number := if number.getLast? = some '\n' then number.dropLast else number
    match number.dropWhile Text.isDigit with
    | [] => !number.isEmpty
    | '.' :: fraction => !fraction.isEmpty && fraction.all Text.isDigit
    | _ => false
  | _ => false

/-- What a word with a dash is if it fits no flag. -/
def withoutFlag (word : List Char) : Word :=
  if isNegativeNumber word || word.contains ' ' then .value else .unknown

/-- What a word before any separator is. -/
def classify (word : String) : Except UsageError Word :=
  match word.toList with
  | '-' :: second :: rest =>
    let (name, attached) := cutAttached word.toList
    if second = '-' then
      let attached := attached.map String.ofList
      match Flag.ofSpelling? (String.ofList name) with
      | some flag => .ok (.flag flag attached)
      | none =>
        match spellings.filter fun s => name.isPrefixOf s.1.toList with
        | [] => .ok (withoutFlag word.toList)
        | [(_, flag)] => .ok (.flag flag attached)
        | several => .error (.ambiguous word (several.map (·.1)))
    else if second = 'h' then
      match name, attached with
      | [_, _], none => .ok (.flag .help none)
      | [_, _], some [] => .ok (.flag .help (some ""))
      | [_, _], some letters => .ok (.bundle letters)
      | _, _ => .ok (.bundle rest)
    else .ok (withoutFlag word.toList)
  | _ => .ok .value

/-- What the words of a command line are. -/
def tellApart : List String → Except UsageError (List (String × Word))
  | [] => .ok []
  | word :: words =>
    if word = "--" then .ok ((word, .separator) :: words.map fun w => (w, .value))
    else do
      let kind ← classify word
      return (word, kind) :: (← tellApart words)

/-- What stands behind the letter of the help flag, which may be repeated, if anything does. -/
def bundledValue? : List Char → Option (List Char)
  | 'h' :: letters => bundledValue? letters
  | [] => none
  | value => some value

/-- Why no arguments come out of a command line. -/
inductive Stop where
  /-- Help is asked for. -/
  | help
  | misused (error : UsageError)
  deriving DecidableEq, Repr

/-- What a command line gives so far. -/
structure Gathered where
  sheet : Option String := none
  company : Option String := none
  person : Option String := none
  kind : DocumentKind := .estimate
  remarks : Option String := none
  output : Option String := none
  /-- Words that stand for nothing. -/
  surplus : List String := []

namespace Gathered

/-- A flag set to nothing: a text that is needed is empty, and what is not needed is as if it had
not been given. -/
def clear (g : Gathered) : Flag → Gathered
  | .help => g
  | .company => { g with company := some "" }
  | .person => { g with person := some "" }
  | .kind => { g with kind := .estimate }
  | .remarks => { g with remarks := none }
  | .output => { g with output := none }

/-- A flag set to a value. -/
def set (g : Gathered) (flag : Flag) (value : String) : Except Stop Gathered :=
  match flag with
  | .help => .error (.misused (.surplusValue .help value))
  | .company => .ok { g with company := some value }
  | .person => .ok { g with person := some value }
  | .kind =>
    match DocumentKind.ofName? value with
    | some kind => .ok { g with kind }
    | none =>
      .error (.misused (.noChoice .kind value (DocumentKind.all.map DocumentKind.name)))
  | .remarks => .ok { g with remarks := some value }
  | .output => .ok { g with output := some value }

/-- A flag set to the value that is attached to it. A separator in its place leaves the flag without
a value. -/
def setAttached (g : Gathered) (flag : Flag) (value : String) : Except Stop Gathered :=
  if value = "--" ∧ flag ≠ .help then .ok (g.clear flag) else g.set flag value

/-- Words that stand for nothing. -/
def leave (g : Gathered) (words : List String) : Gathered :=
  { g with surplus := g.surplus ++ words }

/-- What the words give on top of `g`. The separator belongs to the value next to it if that one
names the sheet. -/
def gather (g : Gathered) : List (String × Word) → Except Stop Gathered
  | [] => .ok g
  | (word, .value) :: (separator, .separator) :: rest =>
    match g.sheet with
    | none => gather { g with sheet := some word } rest
    | some _ => gather (g.leave [word, separator]) rest
  | (word, .value) :: rest =>
    match g.sheet with
    | none => gather { g with sheet := some word } rest
    | some _ => gather (g.leave [word]) rest
  | (separator, .separator) :: (word, .value) :: rest =>
    match g.sheet with
    | none => gather { g with sheet := some word } rest
    | some _ => gather (g.leave [separator, word]) rest
  | (word, .separator) :: rest => gather (g.leave [word]) rest
  | (word, .unknown) :: rest => gather (g.leave [word]) rest
  | (_, .bundle letters) :: _ =>
    match bundledValue? letters with
    | some value => .error (.misused (.surplusValue .help (String.ofList value)))
    | none => .error .help
  | (_, .flag flag (some value)) :: rest => do gather (← g.setAttached flag value) rest
  | (_, .flag .help none) :: _ => .error .help
  | (_, .flag flag none) :: (value, .value) :: rest => do gather (← g.set flag value) rest
  | (_, .flag flag none) :: _ => .error (.misused (.noValue flag))

end Gathered

/-- The arguments of the command. -/
structure Arguments where
  /-- The file of the sheet; a dash stands for the standard input. -/
  sheet : String
  company : String
  person : String
  kind : DocumentKind := .estimate
  remarks : Option String := none
  /-- Where the print is put. -/
  output : Option String := none
  deriving DecidableEq

namespace Arguments

/-- The arguments that were gathered, if none is missing and nothing is left over. -/
def ofGathered (g : Gathered) : Except UsageError Arguments :=
  match g.sheet, g.company, g.person with
  | some sheet, some company, some person =>
    if g.surplus.isEmpty then
      .ok { sheet, company, person, kind := g.kind, remarks := g.remarks, output := g.output }
    else .error (.unrecognized g.surplus)
  | sheet, company, person =>
    .error (.missing
      ([("items_file", sheet), (Flag.company.name, company), (Flag.person.name, person)].filterMap
        fun (name, value) => if value.isNone then some name else none))

/-- The arguments that a command line gives. -/
def read (words : List String) : Except Stop Arguments := do
  let words ← (tellApart words).mapError .misused
  let g ← Gathered.gather {} words
  (ofGathered g).mapError .misused

/-- What is submitted with the text of a sheet. -/
def submission (a : Arguments) (sheet : String) : Submission where
  clientCompany := a.company
  clientPerson := a.person
  sheet
  remarks := a.remarks.getD ""
  kind := .str a.kind.name

end Arguments

end Billing.Command
