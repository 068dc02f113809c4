import Billing.Text.Quoted

/-!
# Flags and their misuse

The flags of the command with their spellings, and what can be wrong with a command line
(`UsageError`), with the messages that are shown.
-/

namespace Billing.Command

/-- A flag of the command. -/
inductive Flag where
  | help
  | company
  | person
  | kind
  | remarks
  | output
  deriving DecidableEq, Repr

/-- How the flags are spelled. -/
def spellings : List (String × Flag) :=
  [("-h", .help), ("--help", .help), ("--company", .company), ("--person", .person),
    ("--type", .kind), ("--remarks", .remarks), ("--output", .output)]

/-- The flag with exactly this spelling. -/
def Flag.ofSpelling? (s : String) : Option Flag := (spellings.find? (·.1 = s)).map (·.2)

/-- All spellings of a flag. -/
def Flag.name (flag : Flag) : String :=
  "/".intercalate ((spellings.filter (·.2 = flag)).map (·.1))

/-- How the command is used. -/
def usage : String :=
  "usage: billing [-h] --company COMPANY --person PERSON " ++
  "[--type \x7bestimate,invoice,receipt\x7d]\n" ++
  "               [--remarks REMARKS] [--output OUTPUT]\n" ++
  "               items_file\n"

/-- What is told when help is asked for. -/
def helpText : String :=
  usage ++
  "\n品目テキストから見積書・請求書・領収書のPDFを生成\n" ++
  "\n  items_file         品目ファイル（1行に「品名, 数量, 単価」、- で標準入力）\n" ++
  "  -h, --help         使い方\n" ++
  "  --company COMPANY  宛先（社名）\n" ++
  "  --person PERSON    担当者名\n" ++
  "  --type TYPE        帳票の種類\n" ++
  "  --remarks REMARKS  備考（省略時はデフォルト文言）\n" ++
  "  --output OUTPUT    出力パス（省略時はoutputディレクトリ）\n"

/-- What is wrong with a command line. -/
inductive UsageError where
  /-- A shortened flag that could be any of these. -/
  | ambiguous (word : String) (candidates : List String)
  /-- A flag without the value that it needs. -/
  | noValue (flag : Flag)
  /-- A value for a flag that takes none. -/
  | surplusValue (flag : Flag) (value : String)
  /-- A value that is none of the choices of a flag. -/
  | noChoice (flag : Flag) (value : String) (choices : List String)
  /-- Arguments that have to be given. -/
  | missing (names : List String)
  /-- Words that stand for nothing. -/
  | unrecognized (words : List String)
  deriving DecidableEq, Repr

namespace UsageError

/-- A message about one flag. -/
def about (flag : Flag) (message : String) : String := "argument " ++ flag.name ++ ": " ++ message

def message : UsageError → String
  | ambiguous word candidates =>
    "ambiguous option: " ++ word ++ " could match " ++ ", ".intercalate candidates
  | noValue flag => about flag "expected one argument"
  | surplusValue flag value => about flag ("ignored explicit argument " ++ Text.quoted value)
  | noChoice flag value choices =>
    about flag ("invalid choice: " ++ Text.quoted value ++ " (choose from " ++
      ", ".intercalate (choices.map fun (s : String) => Text.quoted s) ++ ")")
  | missing names => "the following arguments are required: " ++ ", ".intercalate names
  | unrecognized words => "unrecognized arguments: " ++ " ".intercalate words

end UsageError

end Billing.Command
