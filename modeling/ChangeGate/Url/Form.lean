import ChangeGate.Text.Lossy
import ChangeGate.Url.Percent

/-!
# Forms

Pairs of names and values as a single text, as they stand after the question mark of an address
or in the body of a request. Reading a form gives back the pairs it was written from.
-/

namespace ChangeGate.Url

open ChangeGate.Text

/-- A character that stands for itself in a form. -/
def isPlainInForm (c : Char) : Bool :=
  c.isAlphanum || ['*', '-', '.', '_'].contains c

/-- How a character is written in a form; the space is a plus sign. -/
def encodeFormChar (c : Char) : List Char :=
  if isPlainInForm c then [c] else if c = ' ' then ['+'] else encodeChar c

/-- A name or a value as it is written in a form. -/
def encodeFormText (text : String) : List Char :=
  text.toList.flatMap encodeFormChar

/-- A pair as it is written in a form. -/
def encodePair (pair : String × String) : List Char :=
  encodeFormText pair.1 ++ '=' :: encodeFormText pair.2

/-- Some pairs as they are written in a form. -/
def encodeForm (pairs : List (String × String)) : List Char :=
  ['&'].intercalate (pairs.map encodePair)

/-- Read a name or a value. -/
def decodeFormText (text : List Char) : String :=
  let spaced := text.map fun c => if c = '+' then ' ' else c
  lossyText (ByteArray.mk (percentDecode spaced).toArray)

/-- Read a pair. Without an equals sign the value is empty. -/
def decodePair (text : List Char) : String × String :=
  (decodeFormText (text.takeWhile (· ≠ '=')),
    decodeFormText ((text.dropWhile (· ≠ '=')).drop 1))

/-- Read the pairs of a form. -/
def decodeForm (text : List Char) : List (String × String) :=
  ((text.splitOn '&').filter (!·.isEmpty)).map decodePair

end ChangeGate.Url
