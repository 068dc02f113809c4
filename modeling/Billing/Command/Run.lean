import Billing.Command.Arguments
import Billing.Command.Folder
import Billing.Office

/-!
# Running the command

The command reads a sheet, makes its document, and puts the print into a file. `produce` decides
everything once the sheet is read; `run` does it all in a folder.
-/

namespace Billing.Command

/-- What breaks a run off without a message. -/
inductive Breakdown where
  | fault (cause : Fault)
  | file (cause : FileError)
  /-- The sheet is no text. -/
  | notText
  deriving DecidableEq, Repr

/-- How a run ends. -/
inductive Ending where
  | exit (code : Nat)
  | help
  | misused (error : UsageError)
  | broken (cause : Breakdown)
  deriving DecidableEq, Repr

/-- A print with what remains to be done with it. -/
structure Delivery where
  /-- A directory that has to be there first. -/
  directory : Option String
  path : String
  content : ByteArray
  /-- What is told once the file is written. -/
  report : Except Fault (List String)

/-- What a run comes to once the sheet is read. -/
structure Production where
  printed : List String
  result : Except Ending Delivery

/-- The line of an error. -/
def errorLine (message : String) : String := "エラー: " ++ message

/-- The text of a sheet. -/
def sheetText? (content : ByteArray) : Option String :=
  (String.fromUTF8? content).map fun s => String.ofList (Text.unifyLineEnds s.toList)

/-- How a run ends if no print is made, with the line that is printed. -/
def failure (kind : DocumentKind) : Error → List String × Ending
  | .fault cause => ([], .broken (.fault cause))
  | .unwritten reason =>
    ([errorLine (kind.displayName ++ "の生成中にエラーが発生しました: " ++
      (Error.unwritten reason).message)], .exit 1)
  | e => ([errorLine e.message], .exit 1)

/-- The lines that tell of a finished print. -/
def report (a : Arguments) (summary : Summary) (path : String) : Except Fault (List String) := do
  return [← summary.notification a.company a.person, "出力: " ++ path]

/-- Where a print goes. -/
def deliver (o : Office) (a : Arguments) (printout : Printout) (summary : Summary) : Delivery :=
  let output := a.output.filter (!·.isEmpty)
  let path := match output with
    | some path => Text.normalizePath path
    | none => Text.joinPath o.outputDirectory summary.fileName
  { directory := if output.isSome then none else some o.outputDirectory
    path
    content := printout.file
    report := report a summary path }

/-- What a run comes to when reading the sheet has had this result. -/
def produce (o : Office) (a : Arguments) (sheet : Except FileError ByteArray) : Production :=
  match sheet with
  | .error e =>
    match e.message? a.sheet with
    | some message =>
      ⟨[errorLine ("品目ファイルを読み込めません: " ++ message)], .error (.exit 1)⟩
    | none => ⟨[], .error (.broken (.file e))⟩
  | .ok content =>
    match sheetText? content with
    | none => ⟨[], .error (.broken .notText)⟩
    | some text =>
      let submission := a.submission text
      let filler := o.filler?
        [submission.clientCompany, submission.clientPerson, text, submission.remarks]
      let (result, warned) := o.generate { submission with filler }
      let printed := ("処理中: " ++ a.sheet) :: if warned then [settingsWarning] else []
      match result with
      | .error e =>
        let (lines, ending) := failure a.kind e
        ⟨printed ++ lines, .error ending⟩
      | .ok (printout, summary) => ⟨printed, .ok (deliver o a printout summary)⟩

/-- Whether the sheet is read from the standard input. -/
def Arguments.readsInput (a : Arguments) : Bool := a.sheet = "-"

/-- A folder after a delivery. -/
def Delivery.place (d : Delivery) (folder : Folder) : Except FileError Folder := do
  let folder ← match d.directory with
    | some directory => folder.makeDirectory directory
    | none => pure folder
  folder.write d.path d.content

/-- What a run leaves behind. -/
structure Outcome where
  printed : List String
  ending : Ending
  folder : Folder

/-- The run of a command line in a folder. -/
def run (o : Office) (folder : Folder) (input : ByteArray) (words : List String) : Outcome :=
  match Arguments.read words with
  | .error .help => ⟨[], .help, folder⟩
  | .error (.misused e) => ⟨[], .misused e, folder⟩
  | .ok a =>
    let ⟨printed, result⟩ :=
      produce o a (if a.readsInput then .ok input else folder.read a.sheet)
    match result with
    | .error ending => ⟨printed, ending, folder⟩
    | .ok delivery =>
      match delivery.place folder with
      | .error e => ⟨printed, .broken (.file e), folder⟩
      | .ok folder =>
        match delivery.report with
        | .error cause => ⟨printed, .broken (.fault cause), folder⟩
        | .ok lines => ⟨printed ++ lines, .exit 0, folder⟩

end Billing.Command
