import Billing.Document.Issuer
import Billing.Json.Reader
import Billing.Json.Writer
import Billing.Settings.Environment

/-!
# Company settings

The particulars of the issuing company: defaults from the environment, overlaid with what a
settings file holds (`loadSettings`). The file is JSON: an object, or a list of pairs. A file that
cannot be read leaves the defaults, and one that breaks off in a list of pairs leaves the pairs
before the break applied; either gives a warning.

* `SettingsStore`: the file with its operations.
-/

namespace Billing

/-- Settings by key, in the order in which they were first set. Keys are texts, unless a file of
pairs sets other ones. -/
abbrev CompanySettings := List (Json × Json)

namespace CompanySettings

/-- The number that a value is as a key: truth values count as one and zero. -/
def keyNumber? : Json → Option Rat
  | .bool b => some (if b then 1 else 0)
  | .int n => some n
  | .float x => if x.isFinite then some x.toRat else none
  | _ => none

/-- Whether two values are the same key. -/
def sameKey : Json → Json → Bool
  | .str s, .str t => s == t
  | .torn ps, .torn qs => ps == qs
  | .null, .null => true
  | .float .nan, .float .nan => true
  | .float (.infinity s), .float (.infinity t) => s == t
  | x, y =>
    match keyNumber? x, keyNumber? y with
    | some a, some b => a == b
    | _, _ => false

/-- Whether a value can be a key. -/
def isKey : Json → Bool
  | .arr _ | .obj _ => false
  | _ => true

/-- The settings with one set: in its place if it is there, else at the end. -/
def put (key value : Json) : CompanySettings → CompanySettings
  | [] => [(key, value)]
  | m :: ms => if sameKey m.1 key then (m.1, value) :: ms else m :: put key value ms

/-- The value of a text key. -/
def find? (settings : CompanySettings) (key : String) : Option Json :=
  (List.find? (sameKey ·.1 (.str key)) settings).map (·.2)

/-- The settings as a JSON object. -/
def toJson (settings : CompanySettings) : Json :=
  .obj (settings.map fun (key, value) => (key.raw?.getD key.compact, value))

end CompanySettings

/-- The settings that the environment gives. -/
def defaultSettings (env : Environment) : CompanySettings :=
  [("company_name", "OWN_COMPANY_NAME", "株式会社サンプル"),
    ("representative", "OWN_REPRESENTATIVE", "代表取締役 山田一郎"),
    ("postal_code", "OWN_POSTAL_CODE", "000-0000"),
    ("address", "OWN_ADDRESS", "東京都〇〇区〇〇1-2-3"),
    ("phone", "OWN_PHONE", "00-0000-0000"),
    ("email", "OWN_EMAIL", "info@example.com"),
    ("bank_info", "OWN_BANK_INFO", "〇〇銀行 〇〇支店 普通 1234567"),
    ("seal_text", "OWN_SEAL_TEXT", "㈱サン/プル/之印")].map fun (key, source, default) =>
      (.str key, .str (env.getD source default))

/-- The pair of a text of two characters. -/
def pairOfPoints? : List Text.Point → Option (Json × Json)
  | [key, value] => some (.ofRaw (.ofPoints [key]), .ofRaw (.ofPoints [value]))
  | _ => none

/-- The key and the value that an item of a list sets: a list, a text or an object of two parts,
the keys of the object being its parts. -/
def pairOf? : Json → Option (Json × Json)
  | .arr [key, value] => if CompanySettings.isKey key then some (key, value) else none
  | .str s => pairOfPoints? (Text.Raw.whole s).points
  | .torn ps => pairOfPoints? ps
  | .obj [(key, _), (value, _)] => some (.ofRaw key, .ofRaw value)
  | _ => none

/-- The settings overlaid with the pairs of a list up to the first item that is none, and whether
there was such an item. -/
def overlayPairs (settings : CompanySettings) : List Json → CompanySettings × Bool
  | [] => (settings, false)
  | x :: xs =>
    match pairOf? x with
    | some (key, value) => overlayPairs (settings.put key value) xs
    | none => (settings, true)

/-- The settings overlaid with a JSON value, and whether it could not be applied to its end. -/
def overlay (settings : CompanySettings) : Json → CompanySettings × Bool
  | .obj ms => (ms.foldl (fun s (key, value) => s.put (.ofRaw key) value) settings, false)
  | .arr xs => overlayPairs settings xs
  | .str s => (settings, !s.isEmpty)
  | _ => (settings, true)

/-- The settings for a settings file's text, if there is a file, and whether to warn that it could
not be read. -/
def loadSettings (env : Environment) (file : Option String) : CompanySettings × Bool :=
  let defaults := defaultSettings env
  match file with
  | none => (defaults, false)
  | some text =>
    match Json.read text with
    | .ok value => overlay defaults value
    | .error _ => (defaults, true)

/-- The line that warns of a settings file that could not be read. -/
def settingsWarning : String := "警告: company_config.jsonの読み込みエラー"

/-- The line that tells of a save that failed. -/
def saveError : String := "エラー: company_config.jsonの保存エラー"

/-- How far a save gets. -/
inductive SaveOutcome where
  /-- The file is written to its end. -/
  | written
  /-- The file cannot be opened. -/
  | unopened
  /-- Writing stops after some characters. -/
  | stopped (count : Nat)
  deriving DecidableEq, Repr

/-- A settings file. -/
structure SettingsStore where
  /-- The text of the file, if there is one. -/
  file : Option String := none
  /-- Whether the file's directory is there. -/
  reachable : Bool := true
  deriving DecidableEq, Repr

namespace SettingsStore

/-- The text of the file, if it can be found. -/
def text? (s : SettingsStore) : Option String := if s.reachable then s.file else none

/-- The settings, and whether to warn that the file could not be read. -/
def load (s : SettingsStore) (env : Environment) : CompanySettings × Bool :=
  loadSettings env s.text?

/-- The store after a save that gets as far as said, and whether the save was complete. Opening the
file empties it. -/
def saveTo (s : SettingsStore) (value : Json) : SaveOutcome → SettingsStore × Bool
  | .written => ({ s with file := some value.indented }, true)
  | .unopened => (s, false)
  | .stopped count =>
    ({ s with file := some (String.ofList (value.indented.toList.take count)) }, false)

/-- The store after a save, and whether it was complete: the file cannot be opened if its directory
is not there, and writing stops at a piece with half a character. -/
def save (s : SettingsStore) (value : Json) : SettingsStore × Bool :=
  let pieces := value.indentedPieces
  s.saveTo value <|
    if !s.reachable then .unopened
    else if pieces.all (·.isWhole) then .written
    else .stopped (Json.join (pieces.takeWhile (·.isWhole))).length

/-- The issuer of the settings, and whether to warn that the file could not be read. A character may
stand for halves of characters in its texts. -/
def issuer (s : SettingsStore) (env : Environment) (filler : Option Char) :
    Except Fault Issuer × Bool :=
  let (settings, warned) := s.load env
  (Issuer.ofSettings filler settings.find?, warned)

end SettingsStore

end Billing
