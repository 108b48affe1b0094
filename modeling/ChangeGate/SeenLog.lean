import ChangeGate.Failure
import ChangeGate.Review.Change
import ChangeGate.Review.Patchsets
import ChangeGate.Text.Blank

/-!
# The log of refs seen

What the last round saw is kept in a text file with one ref per line. It is read at the start
of a round and replaced as a whole at its end. A missing file stands for an empty record, and
whatever is written can be read back.
-/

namespace ChangeGate.SeenLog

open ChangeGate.Review ChangeGate.Text

/-- Read the refs of the numbered lines of a log. Blank lines count but hold no ref, and the
first line that is neither blank nor a ref decides the failure. -/
def readLines (line : Nat) : List (List Char) → Except Failure (List ChangeRef)
  | [] => .ok []
  | text :: rest =>
      if (trim text).isEmpty then readLines (line + 1) rest
      else
        match ChangeRef.parse (String.ofList (trim text)) with
        | .error cause => .error (.logLine line cause)
        | .ok ref => (readLines (line + 1) rest).map (ref :: ·)

/-- Read a log from its text. The highest patchset of each change counts. -/
def readText (text : String) : Except Failure Patchsets :=
  (readLines 1 (text.toList.splitOn '\n')).map Patchsets.highest

/-- Read a log from what reading its file gave. -/
def load : Except FileError ByteArray → Except Failure Patchsets
  | .error .notFound => .ok ∅
  | .error cause => .error (.file cause)
  | .ok content =>
      match String.fromUTF8? content with
      | some text => readText text
      | none => .error (.file .notText)

/-- The text of a log: one ref per line, by rising change number. -/
def render (seen : Patchsets) : String :=
  String.ofList (seen.refs.flatMap fun ref => ref.text.toList ++ ['\n'])

/-- The record of some changes: the highest patchset of each change that can be fetched. -/
def record (changes : List Change) : Patchsets :=
  Patchsets.highest ((changes.filter (·.fetchable)).map (·.ref))

end ChangeGate.SeenLog
