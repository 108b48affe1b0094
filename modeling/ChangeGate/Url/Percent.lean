import ChangeGate.Text.Hex

/-!
# Percent encoding

A character that may not stand in some place of an address is written there as its bytes, each
a percent sign and two hexadecimal digits. What must be encoded differs from place to place;
controls and everything outside ASCII always must.
-/

namespace ChangeGate.Url

open ChangeGate.Text

/-- A control character, or one outside ASCII. -/
def isControl (c : Char) : Bool :=
  c.toNat < 0x20 || 0x7F ≤ c.toNat

/-- What must be encoded after a number sign. -/
def encodedInFragment (c : Char) : Bool :=
  isControl c || [' ', '"', '<', '>', '\x60'].contains c

/-- What must be encoded after a question mark; a special scheme excludes the apostrophe too. -/
def encodedInQuery (special : Bool) (c : Char) : Bool :=
  isControl c || [' ', '"', '#', '<', '>'].contains c || (special && c = '\'')

/-- What must be encoded in a path. -/
def encodedInPath (c : Char) : Bool :=
  encodedInFragment c || ['#', '?', '\x7b', '\x7d'].contains c

/-- What must be encoded in a single segment of a path that is given on its own. -/
def encodedInSegment (special : Bool) (c : Char) : Bool :=
  encodedInPath c || c = '/' || c = '%' || (special && c = '\\')

/-- What must be encoded in a user name or a password. -/
def encodedInUser (c : Char) : Bool :=
  encodedInPath c || ['/', ':', ';', '=', '@', '[', '\\', ']', '^', '|'].contains c

/-- A byte as a percent sign and two digits. -/
def encodeByte (byte : UInt8) : List Char :=
  '%' :: upperHexByte byte

/-- A character as its encoded bytes. -/
def encodeChar (c : Char) : List Char :=
  (String.utf8EncodeChar c).flatMap encodeByte

/-- A text with some of its characters encoded. -/
def percentEncode (encoded : Char → Bool) (text : List Char) : List Char :=
  text.flatMap fun c => if encoded c then encodeChar c else [c]

/-- The bytes of a text with every encoded byte put back. -/
def percentDecode : List Char → List UInt8
  | '%' :: high :: low :: rest =>
      match hexValue? high, hexValue? low with
      | some high, some low => UInt8.ofNat (16 * high + low) :: percentDecode rest
      | _, _ => String.utf8EncodeChar '%' ++ percentDecode (high :: low :: rest)
  | c :: rest => String.utf8EncodeChar c ++ percentDecode rest
  | [] => []

/-- The text that some bytes spell, when they spell one. -/
def textOfBytes? (bytes : List UInt8) : Option (List Char) :=
  (String.fromUTF8? (ByteArray.mk bytes.toArray)).map String.toList

end ChangeGate.Url
