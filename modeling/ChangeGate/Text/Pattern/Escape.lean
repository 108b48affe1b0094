import ChangeGate.Text.Blank
import ChangeGate.Text.Hex
import ChangeGate.Text.Pattern.Basic

/-!
# Signs in patterns

How the text of a pattern is read depends on flags. A backslash gives a sign its own meaning, or a
letter another one.
-/

namespace ChangeGate.Text.Pattern

/-- The flags in force at a place of a pattern. -/
structure Flags where
  ignoresCase : Bool := false
  /-- The marks for start and end speak of lines. -/
  marksLines : Bool := false
  /-- The dot takes line ends as well. -/
  dotTakesAll : Bool := false
  /-- A carriage return ends a line too. -/
  returnsEndLines : Bool := false
  /-- Repetitions are patient where they would be eager, and eager where they would be patient. -/
  swapsEager : Bool := false
  /-- White space and comments are passed over. -/
  ignoresBlanks : Bool := false
  /-- All characters are known, not only those of ASCII. -/
  knowsAll : Bool := true
  deriving DecidableEq, Repr, Inhabited

namespace Flags

/-- Turn the flag of a letter on or off. -/
def turn? (on : Bool) (flags : Flags) (letter : Char) : Option Flags :=
  match letter with
  | 'i' => some { flags with ignoresCase := on }
  | 'm' => some { flags with marksLines := on }
  | 's' => some { flags with dotTakesAll := on }
  | 'R' => some { flags with returnsEndLines := on }
  | 'U' => some { flags with swapsEager := on }
  | 'x' => some { flags with ignoresBlanks := on }
  | 'u' => some { flags with knowsAll := on }
  | _ => none

/-- Turn flags on, and behind a hyphen off, by their letters, each of which stands there once. -/
def turnAll? (flags : Flags) (letters : List Char) : Option Flags :=
  if letters.eraseDups.length < letters.length || letters.getLast? = some '-' then none
  else do
    let on := letters.takeWhile (· ≠ '-')
    (letters.drop (on.length + 1)).foldlM (turn? false) (← on.foldlM (turn? true) flags)

/-- The characters that stand for those of a set. -/
def fold (flags : Flags) (chars : AsciiSet) : AsciiSet :=
  if flags.ignoresCase then chars.bothCases else chars

/-- All characters but those of a set, which can be told only if all are known. -/
def others? (flags : Flags) (chars : AsciiSet) : Option AsciiSet :=
  if flags.knowsAll then some chars.complement else none

/-- The rest of a text behind white space and comments, which end with their lines. -/
def skipIgnored (inComment : Bool) : List Char → List Char
  | [] => []
  | c :: rest =>
      if inComment then skipIgnored (c ≠ '\n') rest
      else if isBlank c then skipIgnored false rest
      else if c = '#' then skipIgnored true rest
      else c :: rest

/-- The rest of a text behind what is passed over. -/
def skip (flags : Flags) (text : List Char) : List Char :=
  if flags.ignoresBlanks then skipIgnored false text else text

end Flags

/-- What stands behind a backslash. -/
inductive Escape where
  | char (c : Char)
  | chars (chars : AsciiSet)
  | boundary (kind : Boundary)
  deriving DecidableEq, Repr, Inhabited

/-- The characters that a letter stands for; an upper-case letter stands for all others. -/
def classOfLetter? (letter : Char) : Option AsciiSet :=
  match letter.toLower with
  | 'd' => some AsciiSet.digits
  | 'w' => some AsciiSet.wordCharacters
  | 's' => some AsciiSet.blanks
  | _ => none

/-- The ASCII characters of a general category. -/
def category? (letter : Char) : Option AsciiSet :=
  match letter.toLower with
  | 'l' => some AsciiSet.letters
  | 'n' => some AsciiSet.digits
  | 'p' => some (.ofText "!\"#%&'()*,-./:;?@[\\]_\x7b\x7d")
  | 's' => some (.ofText "$+<=>^\x60|~")
  | 'z' => some (.single ' ')
  | 'c' => some AsciiSet.controls
  | 'm' => some AsciiSet.empty
  | _ => none

/-- The boundary that a letter stands for. Which characters are in words is told only of those of
ASCII. -/
def boundary? (flags : Flags) (letter : Char) : Option Boundary :=
  match letter with
  | 'A' => some .textStart
  | 'z' => some .textEnd
  | _ =>
      if flags.knowsAll then none
      else
        match letter with
        | 'b' => some .wordEdge
        | 'B' => some .noWordEdge
        | '<' => some .wordStart
        | '>' => some .wordEnd
        | _ => none

/-- The control character that a letter stands for, or a sign for itself. -/
def escaped? (c : Char) : Option Char :=
  match c with
  | 'n' => some '\n'
  | 't' => some '\t'
  | 'r' => some '\r'
  | 'f' => some '\x0C'
  | 'v' => some '\x0B'
  | 'a' => some '\x07'
  | _ => if c.toNat < 0x80 && !c.isAlphanum && c ≠ '<' && c ≠ '>' then some c else none

/-- How many hexadecimal digits follow a letter. -/
def digitCount? (letter : Char) : Option Nat :=
  match letter with
  | 'x' => some 2
  | 'u' => some 4
  | 'U' => some 8
  | _ => none

/-- Read some hexadecimal digits. -/
def readDigits (flags : Flags) : Nat → List Char → Option (List Char × List Char)
  | 0, text => some ([], text)
  | count + 1, text =>
      match flags.skip text with
      | digit :: rest => do
          let (digits, after) ← readDigits flags count rest
          pure (digit :: digits, after)
      | [] => none

/-- Read a character by its code. -/
def readCode (flags : Flags) (count : Nat) (text : List Char) : Option (Escape × List Char) := do
  let (digits, rest) ← readDigits flags count text
  let code ← hexNumber? digits
  if code.isValidChar && (flags.knowsAll || code < 0x80 || count ≠ 2) then
    pure (.char (Char.ofNat code), rest)
  else none

/-- Read a category by its letter. -/
def readCategory (flags : Flags) (among : Bool) (text : List Char) : Option (Escape × List Char) :=
  match flags.skip text with
  | letter :: rest => do
      let chars ← category? letter
      if flags.knowsAll then pure (.chars (if among then chars else chars.complement), rest)
      else none
  | [] => none

/-- Read what stands behind a backslash. -/
def readEscape (flags : Flags) : List Char → Option (Escape × List Char)
  | [] => none
  | c :: rest =>
      match digitCount? c, classOfLetter? c, boundary? flags c with
      | some count, _, _ => readCode flags count rest
      | _, some chars, _ =>
          (if c.isUpper then flags.others? chars else some chars).map fun chars =>
            (.chars chars, rest)
      | _, _, some kind => some (.boundary kind, rest)
      | none, none, none =>
          if c = 'p' || c = 'P' then readCategory flags (c = 'p') rest
          else (escaped? c).map fun c => (.char c, rest)

end ChangeGate.Text.Pattern
