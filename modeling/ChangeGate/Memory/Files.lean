import Std.Data.ExtTreeMap
import ChangeGate.Failure

/-!
# Files in memory

Files by their paths. Relative paths start from one folder, and what lies below it is known by its
path from there, all else by its path from the root. A path is walked step by step, and every step
but the last must lead into a folder.
-/

namespace ChangeGate.Memory

/-- Contents are the same if all their bytes are. -/
instance (priority := 2000) decideSameBytes : DecidableEq ByteArray := ByteArray.instDecidableEq

/-- The files, each under the key of its path. -/
abbrev Files := Std.ExtTreeMap String ByteArray

/-- The folder that relative paths start from. -/
def homeFolder : String := "/tmp/gate"

/-- The steps of a path as it is written. -/
def pathSteps (path : String) : List String :=
  (path.toList.splitOn '/').map String.ofList

/-- A step that stays where it is. -/
def isIdle (step : String) : Bool :=
  step = "" || step = "."

/-- The steps to the home folder. -/
def homeSteps : List String :=
  (pathSteps homeFolder).filter (!isIdle ·)

/-- The steps to where a path starts. -/
def originOf (path : String) : List String :=
  if path.toList.head? = some '/' then [] else homeSteps

/-- The error when a file lies on the way. -/
def notFolder : FileError := .other "Not a directory (os error 20)"

/-- The error when a name is too long. -/
def nameTooLong : FileError := .other "File name too long (os error 36)"

/-- The error when a path holds a character that none can hold. -/
def invalidPath : FileError := .other "file name contained an unexpected NUL byte"

/-- A name that no file can have. -/
def isTooLong (step : String) : Bool :=
  255 < step.utf8ByteSize

/-- The error of a path that nothing can have. -/
def pathError? (path : String) : Option FileError :=
  if path.isEmpty then some .notFound
  else if '\x00' ∈ path.toList then some invalidPath
  else if 4096 ≤ path.utf8ByteSize then some nameTooLong
  else none

/-- What some steps from the root lead to. -/
inductive Entry where
  | missing
  | folder
  | file (content : ByteArray)
  deriving DecidableEq, Inhabited

namespace Files

/-- Some file lies below the path of a key. -/
def isFolder (files : Files) (key : String) : Bool :=
  files.keys.any fun other => (key ++ "/").toList.isPrefixOf other.toList

/-- The key of what some steps from the root lead to: the path from the home folder, or else the
path from the root. -/
def keyOf (steps : List String) : String :=
  if homeSteps.isPrefixOf steps then String.intercalate "/" (steps.drop homeSteps.length)
  else "/" ++ String.intercalate "/" steps

/-- What some steps from the root lead to. -/
def entry (files : Files) (steps : List String) : Entry :=
  if steps.isPrefixOf homeSteps then .folder
  else
    match files[keyOf steps]? with
    | some content => .file content
    | none => if files.isFolder (keyOf steps) then .folder else .missing

/-- Walk further steps. What is missing on the way is an error, unless it is made. -/
def walk (files : Files) (make : Bool) (taken : List String) :
    List String → Except FileError (List String)
  | [] => .ok taken
  | step :: rest =>
      match files.entry taken with
      | .file _ => .error notFolder
      | found =>
          if found = .missing && !make then .error .notFound
          else if isIdle step then walk files make taken rest
          else if step = ".." then walk files make taken.dropLast rest
          else if isTooLong step then .error nameTooLong
          else walk files make (taken ++ [step]) rest

/-- Read a file. -/
def read (files : Files) (path : String) : Except FileError ByteArray :=
  match pathError? path with
  | some error => .error error
  | none => do
      match files.entry (← files.walk false (originOf path) (pathSteps path)) with
      | .file content => .ok content
      | .folder => .error .isFolder
      | .missing => .error .notFound

/-- The steps to the place where a file of a path can be put; the folders on the way are made. The
last step must be a name. -/
def placeOf (files : Files) (path : String) : Except FileError (List String) :=
  match pathError? path with
  | some error => .error error
  | none => do
      let steps := pathSteps path
      let place ← files.walk true (originOf path) steps
      let isNamed := steps.getLast?.any fun step => !isIdle step && step ≠ ".."
      match files.entry place with
      | .folder => .error .isFolder
      | _ => if isNamed then .ok place else .error notFolder

/-- Replace a file, or put one where there is none. -/
def replace (path : String) (content : ByteArray) (files : Files) :
    Except FileError Unit × Files :=
  match files.placeOf path with
  | .error error => (.error error, files)
  | .ok place => (.ok (), files.insert (keyOf place) content)

end Files

end ChangeGate.Memory
