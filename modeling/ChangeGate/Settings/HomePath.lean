import ChangeGate.Settings.Basic
import ChangeGate.Text.Search

/-!
# Paths under the home directory

A path may start with `~/` or name the home directory by its variable. Without a home
directory a path is taken as it is.
-/

namespace ChangeGate

open ChangeGate.Text

/-- A path with both spellings of the home variable replaced, the one with braces first. -/
def replaceHome (home path : List Char) : List Char :=
  replaceAll '$' "HOME".toList home (replaceAll '$' "\x7bHOME\x7d".toList home path)

/-- A path with the home directory put in. -/
def expandHome (home : Option String) (path : String) : String :=
  match home with
  | none => path
  | some home =>
      match textAfter? ['~', '/'] path.toList with
      | some rest => home ++ "/" ++ String.ofList rest
      | none => String.ofList (replaceHome home.toList path.toList)

/-- The path of the log of refs seen. -/
def Settings.logPath (settings : Settings) (home : Option String) : String :=
  expandHome home settings.gate.logFile

end ChangeGate
