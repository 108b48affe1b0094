import ChangeGate.Text.Blank
import ChangeGate.Text.Digit
import ChangeGate.Text.Numeral
import ChangeGate.Text.Search

/-!
# Markers in a commit message

Owners steer the gate by three markers in the commit message: `MultiPart: i/n` says that a
change is one part of several, `PresubmitTest: none` asks for no tests, and a line with
nothing but `AutoSubmit` asks to land once approved.

Each marker has a recogniser for a text that starts with it. The first position at which a
recogniser succeeds decides, and later occurrences are not looked at.
-/

namespace ChangeGate.Review

open ChangeGate.Text

/-! ## Parts -/

/-- Which part of how many a change is. -/
structure PartMarker where
  index : UInt32
  total : UInt32
  deriving DecidableEq, Repr, Inhabited

/-- The digits a text starts with, if any, and what follows them. -/
def digitRun? (text : List Char) : Option (List Char × List Char) :=
  match text.takeWhile isDecimalDigit with
  | [] => none
  | digits => some (digits, text.dropWhile isDecimalDigit)

/-- The two runs of digits of a part marker at the start of a text. White space may stand
before each run and before the slash. -/
def partDigits? (text : List Char) : Option (List Char × List Char) := do
  let afterLabel ← textAfter? "MultiPart:".toList text
  let (index, afterIndex) ← digitRun? (trimStart afterLabel)
  let afterSlash ← textAfter? ['/'] (trimStart afterIndex)
  let (total, _) ← digitRun? (trimStart afterSlash)
  pure (index, total)

/-- The part marker of a message. The first place with the right shape decides: when its
digits are not ASCII digits or its numbers too large, the message has no part marker. -/
def partMarker? (message : String) : Option PartMarker := do
  let (index, total) ← firstMatch? partDigits? message.toList
  let index ← (readUInt32 index).toOption
  let total ← (readUInt32 total).toOption
  pure ⟨index, total⟩

/-! ## Tests -/

/-- Whether tests run for a change. -/
inductive Directive where
  | run
  | skip
  deriving DecidableEq, Repr, Inhabited

/-- The value of a test directive at the start of a text: the first word after the label. -/
def directiveValue? (text : List Char) : Option (List Char) := do
  let afterLabel ← textAfter? "PresubmitTest:".toList text
  match (trimStart afterLabel).takeWhile (!isBlank ·) with
  | [] => none
  | value => some value

/-- The test directive of a message: the value `none`, in any case, skips the tests. -/
def directive (message : String) : Directive :=
  match firstMatch? directiveValue? message.toList with
  | some value => if value.map Char.toLower = "none".toList then .skip else .run
  | none => .run

/-! ## Landing -/

/-- The texts that start right after a line break of a text. -/
def laterLines : List Char → List (List Char)
  | [] => []
  | c :: rest => if c = '\n' then rest :: laterLines rest else laterLines rest

/-- A text whose first word is `AutoSubmit`, with nothing else on that word's line. -/
def startsWithLandingWord (text : List Char) : Bool :=
  match textAfter? "AutoSubmit".toList (trimStart text) with
  | some rest => (trimStart rest).isEmpty || (rest.takeWhile isBlank).contains '\n'
  | none => false

/-- Whether the owner asks for the change to land. White space before the word may span
lines, so each line of the message is a place to start from. -/
def asksToLand (message : String) : Bool :=
  (message.toList :: laterLines message.toList).any startsWithLandingWord

end ChangeGate.Review
