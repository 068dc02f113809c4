import Billing.Command.Run
import Std.Time.Format

/-!
# The command

The command line of the library: `Command.produce` with the files, the environment and the date of
the machine.
-/

namespace Billing.Command

/-- The variables that are taken from the environment. -/
def variableNames : List String :=
  ["OUTPUT_DIR", "COMPANY_CONFIG_PATH", "PDF_GOTHIC_FONT_PATH", "PDF_MINCHO_FONT_PATH", "TAX_RATE",
    "WELFARE_LEVY_RATE", "LAYOUT_MIN_TABLE_TOP", "LAYOUT_TABLE_GAP", "LAYOUT_TABLE_START_LIMIT",
    "LAYOUT_ROW_BOTTOM", "LAYOUT_BLOCK_BOTTOM", "LAYOUT_PAGE_TOP", "LAYOUT_MIN_ROW_HEIGHT",
    "LAYOUT_ROW_PADDING", "ESTIMATE_VALIDITY_NOTE", "INVOICE_PAYMENT_DUE_NOTE", "OWN_COMPANY_NAME",
    "OWN_REPRESENTATIVE", "OWN_POSTAL_CODE", "OWN_ADDRESS", "OWN_PHONE", "OWN_EMAIL",
    "OWN_BANK_INFO", "OWN_SEAL_TEXT"]

/-- The variables that are set. -/
def readEnvironment : IO Environment :=
  variableNames.filterMapM fun name => do return (← IO.getEnv name).map fun value => (name, value)

/-- Today's date. -/
def readDate : IO Date := do
  let today ← Std.Time.PlainDate.now
  return ⟨today.year.toInt.toNat, today.month.val.toNat, today.day.val.toNat⟩

/-- The settings file at a path. A file that is no text counts as an empty one. -/
def readSettings (path : String) : IO SettingsStore := do
  try
    let content ← IO.FS.readBinFile path
    return { file := some ((String.fromUTF8? content).getD "") }
  catch _ => return {}

/-- Numbers between zero and one that differ from run to run. -/
def readNoise : IO (Nat → Binary64) := do
  let seed ← IO.rand 0 0xffffffff
  return fun n => .ofRat ((randNat (mkStdGen (seed + n)) 0 9999).1 / 10000)

/-- The file error that a failed operation reports. -/
def fileError : IO.Error → FileError
  | .noFileOrDirectory .. => .missing
  | .alreadyExists .. => .existing
  | .permissionDenied _ code _ => .system code.toNat "Permission denied"
  | .inappropriateType _ code details | .invalidArgument _ code details =>
    [FileError.notDirectory, .isDirectory, .nameTooLong].find? (fun e =>
      match e with
      | .system code' _ => code' = code.toNat
      | .nullCharacter => false) |>.getD (.system code.toNat details)
  | e => .system 5 (toString e)

/-- The result of an operation on a file at a path. -/
def onFile {α : Type} (path : String) (operation : IO α) : IO (Except FileError α) := do
  if path.toList.contains '\x00' then return .error .nullCharacter
  try return .ok (← operation) catch e => return .error (fileError e)

/-- The content of the sheet. -/
def readSheet (a : Arguments) : IO (Except FileError ByteArray) :=
  if a.readsInput then do return .ok (← (← IO.getStdin).readBinToEnd)
  else onFile a.sheet (IO.FS.readBinFile (Text.normalizePath a.sheet))

/-- Writes a print to its place. -/
def writeDelivery (d : Delivery) : IO (Except FileError Unit) :=
  onFile d.path do
    d.directory.forM fun directory => IO.FS.createDirAll directory
    IO.FS.writeBinFile d.path d.content

/-- The exit code after a run that was broken off. -/
def breakOff (cause : Breakdown) : IO UInt32 := do
  let words := match cause with
    | .fault _ => "the document cannot be computed"
    | .file _ => "the file cannot be written"
    | .notText => "the sheet is no text"
  IO.eprintln words
  return 1

/-- The exit code of a run that ends without a print. -/
def finish : Ending → IO UInt32
  | .exit code => return code.toUInt32
  | .help => do
    IO.print helpText
    return 0
  | .misused e => do
    IO.eprintln (usage ++ "billing: error: " ++ e.message)
    return 2
  | .broken cause => breakOff cause

/-- The run of a command with these arguments. -/
def runWith (office : Office) (a : Arguments) : IO UInt32 := do
  let production := produce office a (← readSheet a)
  production.printed.forM fun line => IO.println line
  match production.result with
  | .error ending => finish ending
  | .ok delivery =>
    match ← writeDelivery delivery with
    | .error e => breakOff (.file e)
    | .ok () =>
      match delivery.report with
      | .error cause => breakOff (.fault cause)
      | .ok lines =>
        lines.forM fun line => IO.println line
        return 0

/-- The run of a command line. -/
def runWords (words : List String) : IO UInt32 := do
  let environment ← readEnvironment
  match Constants.ofEnvironment "." environment with
  | .error cause => breakOff (.fault cause)
  | .ok constants =>
    match Arguments.read words with
    | .error .help => finish .help
    | .error (.misused e) => finish (.misused e)
    | .ok a =>
      let settings ← readSettings constants.companyFile
      let canvas := Canvas.a4 (← readNoise)
      runWith (.ofConstants constants environment settings (← readDate) canvas) a

end Billing.Command

/-- The command line. -/
def main (words : List String) : IO UInt32 := Billing.Command.runWords words
