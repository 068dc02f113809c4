import Billing.Text.Path
import Billing.Text.Quoted

/-!
# Folders

The files below a working directory. Paths are walked part by part (`Folder.resolve`). They may lead
up from the working directory or start at the root; only the usual directories and devices are found
there, but a file can be put.

* `Folder.file?_put`: a file that was put has the content that was put.
* `Folder.write_void`: what is written into the void leaves a folder as it is.
-/

namespace Billing

/-- Why a file operation fails. -/
inductive FileError where
  /-- The path holds a null character. -/
  | nullCharacter
  | system (code : Nat) (description : String)
  deriving DecidableEq, Repr

namespace FileError

def missing : FileError := system 2 "No such file or directory"

def existing : FileError := system 17 "File exists"

def notDirectory : FileError := system 20 "Not a directory"

def isDirectory : FileError := system 21 "Is a directory"

def noSpace : FileError := system 28 "No space left on device"

def nameTooLong : FileError := system 36 "File name too long"

/-- The message about a path; a null character has none. -/
def message? (path : String) : FileError → Option String
  | nullCharacter => none
  | system code description =>
    some ("[Errno " ++ toString code ++ "] " ++ description ++ ": " ++
      Text.quoted (Text.normalizePath path))

end FileError

/-- A place by the names that lead to it from the working directory; the first ones may lead up, or
to the root. -/
abbrev Place := List String

/-- The root of all places. -/
def rootName : String := "/"

/-- The directories at the root of every system. -/
def rootDirectories : List Place :=
  ["bin", "boot", "dev", "etc", "home", "lib", "media", "mnt", "opt", "proc", "root", "run", "sbin",
    "srv", "sys", "tmp", "usr", "var"].map ([rootName, ·])

/-- How many directories lead from the root to the working directory. -/
def workingDepth : Nat := 2

/-- A file that holds nothing. -/
inductive Device where
  /-- It takes all that is written. -/
  | void
  /-- It takes nothing. -/
  | full
  deriving DecidableEq, Repr

/-- The device at a place. -/
def device? (place : Place) : Option Device :=
  if place = [rootName, "dev", "null"] then some .void
  else if place = [rootName, "dev", "full"] then some .full
  else none

/-- The files and directories below the working directory. -/
structure Folder where
  files : List (Place × ByteArray) := []
  directories : List Place := []

namespace Folder

/-- The content of the file that was put at a place. -/
def file? (f : Folder) (place : Place) : Option ByteArray :=
  (f.files.find? (·.1 = place)).map (·.2)

/-- Whether a file or a device is at a place. -/
def isFile (f : Folder) (place : Place) : Bool := (f.file? place).isSome || (device? place).isSome

/-- Whether a directory is at a place. -/
def isDirectory (f : Folder) (place : Place) : Bool :=
  place = [rootName] || rootDirectories.contains place || place.all (· = "..") ||
    f.directories.contains place

/-- The place that a name leads to. -/
def enter (place : Place) (name : String) : Place :=
  if name = ".." then
    if place = [rootName] then place
    else if place.all (· = "..") then
      if place.length + 1 < workingDepth then place ++ [name] else [rootName]
    else place.dropLast
  else place ++ [name]

/-- The longest name in bytes. -/
def nameLimit : Nat := 255

/-- The longest path in bytes. -/
def pathLimit : Nat := 4095

/-- The place that names lead to, all but the last through directories. -/
def walk (f : Folder) (place : Place) : List String → Except FileError Place
  | [] => .ok place
  | name :: names =>
    if f.isFile place then .error .notDirectory
    else if !f.isDirectory place then .error .missing
    else if nameLimit < name.utf8ByteSize then .error .nameTooLong
    else walk f (enter place name) names

/-- The parts of a path. -/
def names (path : String) : List String := (Text.pathParts path.toList).map String.ofList

/-- Where the names of a path lead from. -/
def start (path : String) : Place := if Text.pathRoot path.toList = [] then [] else [rootName]

/-- The place of a path. -/
def resolve (f : Folder) (path : String) : Except FileError Place :=
  if path.toList.contains '\x00' then .error .nullCharacter
  else if pathLimit < (Text.normalizePath path).utf8ByteSize then .error .nameTooLong
  else f.walk (start path) (names path)

/-- The content of a file. -/
def read (f : Folder) (path : String) : Except FileError ByteArray := do
  let place ← f.resolve path
  if device? place = some .void then return .empty
  match f.file? place with
  | some content => return content
  | none => throw (if f.isDirectory place then .isDirectory else .missing)

/-- The folder with a file at a place. -/
def put (f : Folder) (place : Place) (content : ByteArray) : Folder :=
  { f with files := (place, content) :: f.files.filter (·.1 ≠ place) }

/-- The folder after a file was written. -/
def write (f : Folder) (path : String) (content : ByteArray) : Except FileError Folder := do
  let place ← f.resolve path
  if f.isDirectory place then throw .isDirectory
  match device? place with
  | some .void => return f
  | some .full => throw .noSpace
  | none => return f.put place content

/-- The folder with the directories that names lead through. -/
def makeAlong (f : Folder) (place : Place) : List String → Except FileError Folder
  | [] => .ok f
  | name :: names =>
    let place := enter place name
    if f.isFile place then .error (if names = [] then .existing else .notDirectory)
    else if f.isDirectory place then f.makeAlong place names
    else makeAlong { f with directories := place :: f.directories } place names

/-- The folder with a directory and all that it lies in. -/
def makeDirectory (f : Folder) (path : String) : Except FileError Folder :=
  f.makeAlong (start path) (names path)

theorem file?_put (f : Folder) (place : Place) (content : ByteArray) :
    (f.put place content).file? place = some content := by
  simp [file?, put]

theorem write_void (f : Folder) (content : ByteArray) {path : String}
    (h : f.resolve path = .ok [rootName, "dev", "null"]) (hf : f.directories = []) :
    f.write path content = .ok f := by
  simp [write, h, device?, isDirectory, hf, rootDirectories, rootName, bind, Except.bind, pure,
    Except.pure]

end Folder

end Billing
