import ChangeGate.Text.Composition
import ChangeGate.Text.Direction
import ChangeGate.Text.Joining
import ChangeGate.Text.Mark
import ChangeGate.Url.Mapping
import ChangeGate.Url.Punycode

/-!
# Labels

What a label of a domain may be when it is not plain ASCII: its characters are those that a
domain may hold, in their one form; the joiners that show nothing stand only where they matter to
a script; and where letters are written from right to left, a label keeps to one direction.
-/

namespace ChangeGate.Url

open ChangeGate.Text

/-- The character that keeps two letters from being joined. -/
def nonJoiner : Char := '\u200C'

/-- The character that asks for two letters to be joined. -/
def joiner : Char := '\u200D'

/-- A mark that silences the vowel of a letter. -/
def silencesVowel (c : Char) : Bool :=
  markClass c = 9

/-- The nearest of some neighbours that a letter can be joined with. -/
def nearestJoining? (neighbours : List Char) : Option Joining :=
  (neighbours.dropWhile (joining? · = some .across)).head?.bind joining?

/-- The letters around a place, nearest first, are joined across it. -/
def areJoined (before after : List Char) : Bool :=
  [some .both, some .next].contains (nearestJoining? before)
    && [some .both, some .previous].contains (nearestJoining? after)

/-- The joiners of a label stand where they matter. The text before is reversed. -/
def joinersFit (before : List Char) : List Char → Bool
  | [] => true
  | c :: rest =>
      let fits :=
        if c = nonJoiner then before.head?.any silencesVowel || areJoined before rest
        else if c = joiner then before.head?.any silencesVowel
        else true
      fits && joinersFit (c :: before) rest

/-- A character that is written from right to left. -/
def runsLeft (c : Char) : Bool :=
  0x80 ≤ c.toNat && (direction c).runsLeft

/-- A label starts with a letter and keeps to the direction of that letter. -/
def keepsDirection (label : List Char) : Bool :=
  let directions := label.map direction
  let last := (directions.reverse.dropWhile (· = .mark)).head?
  match directions with
  | [] => true
  | .left :: rest =>
      rest.all (!·.runsLeft) && [some .left, some .digit].contains last
  | .right :: rest =>
      rest.all (· ≠ .left) && [some .right, some .digit, some .arabicDigit].contains last
        && !(rest.contains .digit && rest.contains .arabicDigit)
  | _ => false

/-- What the labels that are written as ASCII text start with. -/
def encodedMark : List Char := "xn--".toList

/-- The number of characters beyond which no label is written as ASCII text. -/
def longestLabel : Nat := 1000

/-- The number of characters beyond which no ASCII text is read as a label. -/
def longestEncodedLabel : Nat := 2000

/-- A label outside ASCII that a domain may have. -/
def isWideLabel (label : List Char) : Bool :=
  label.any (0x80 ≤ ·.toNat) && label.length ≤ longestLabel
    && label.all (fun c => c.toNat < 0x80 || domainChars? c = some [c])
    && composedForm label = label && !label.head?.any isMark
    && joinersFit [] label && !encodedMark.isPrefixOf label

/-- A label as ASCII text. -/
def asciiLabel (label : List Char) : List Char :=
  if label.all (·.toNat < 0x80) then label else encodedMark ++ Punycode.encode label

/-- The label that a text stands for, if a domain may have it. -/
def label? (text : List Char) : Option (List Char) :=
  if encodedMark.isPrefixOf text then
    if text.length ≤ encodedMark.length + longestEncodedLabel then
      match Punycode.decode? (text.drop encodedMark.length) with
      | some label => if isWideLabel label && asciiLabel label = text then some label else none
      | none => none
    else none
  else if text.all (·.toNat < 0x80) || isWideLabel text then some text
  else none

end ChangeGate.Url
