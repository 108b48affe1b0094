import ChangeGate.Memory.Files

/-!
# The log in memory

What the path of the log leads to. Where a file can be put, one can be read and replaced. Some files
can be read but not replaced, and some paths lead to places where no file can ever be.
-/

namespace ChangeGate.Memory

/-- What the path of the log leads to. -/
inductive LogFile where
  | missing
  | file (content : ByteArray)
  /-- A file that cannot be replaced, as when the folder it is in takes no new file. -/
  | locked (content : ByteArray) (cause : FileError)
  /-- A directory that is not empty, which nothing can replace. -/
  | folder
  /-- Nothing, and no file can be put here. -/
  | barred
  /-- Nothing, and what tries to put a file here makes a folder. -/
  | unmade
  /-- A path that nothing can have. -/
  | unusable (cause : FileError)
  deriving DecidableEq, Inhabited

namespace LogFile

/-- What reading the file gives. -/
def read : LogFile → Except FileError ByteArray
  | .missing => .error .notFound
  | .file content => .ok content
  | .locked content _ => .ok content
  | .folder => .error .isFolder
  | .barred => .error .notFound
  | .unmade => .error .notFound
  | .unusable cause => .error cause

/-- Replace the file. -/
def replace (content : ByteArray) : LogFile → Except FileError Unit × LogFile
  | .missing => (.ok (), .file content)
  | .file _ => (.ok (), .file content)
  | .locked old cause => (.error cause, .locked old cause)
  | .folder => (.error .isFolder, .folder)
  | .barred => (.error notFolder, .barred)
  | .unmade => (.error .isFolder, .folder)
  | .unusable cause => (.error cause, .unusable cause)

/-- A file or a folder can be here. -/
def isPlace : LogFile → Bool
  | .missing => true
  | .file _ => true
  | .folder => true
  | _ => false

/-- What is here once someone put something in the place of the log, if anything can be. -/
def put (log other : LogFile) : LogFile :=
  if log.isPlace then other else log

/-- A path ends with a name, apart from steps that stay where they are, and has no name that is
too long. -/
def endsWithName (path : String) : Bool :=
  let steps := (pathSteps path).filter (!isIdle ·)
  steps.getLast?.any (· ≠ "..") && !steps.any isTooLong

/-- What a path leads to when the home folder is empty. -/
def ofPath (path : String) : LogFile :=
  let path := if path.startsWith "/" then path else homeFolder ++ "/" ++ path
  match Files.read ∅ path with
  | .ok content => .file content
  | .error .notFound =>
      match Files.placeOf ∅ path with
      | .ok _ => .missing
      | .error _ => if endsWithName path then .barred else .unmade
  | .error .isFolder => .folder
  | .error cause => .unusable cause

end LogFile

end ChangeGate.Memory
