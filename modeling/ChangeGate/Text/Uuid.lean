import ChangeGate.Text.Hex

/-!
# Random names

Sixteen random bytes as a name: hexadecimal digits in groups, with the digits that say how the
name was made.
-/

namespace ChangeGate.Text

/-- The two lower-case hexadecimal digits of a byte. -/
def lowerHexByte (byte : UInt8) : List Char :=
  (upperHexByte byte).map Char.toLower

/-- The name that sixteen random bytes make. -/
def uuidText (bytes : List UInt8) : String :=
  let marked := (bytes.modify 6 fun byte => 0x40 ||| (byte &&& 0x0F)).modify 8 fun byte =>
    0x80 ||| (byte &&& 0x3F)
  let group (start count : Nat) : List Char := ((marked.drop start).take count).flatMap lowerHexByte
  String.ofList
    (['-'].intercalate [group 0 4, group 4 2, group 6 2, group 8 2, group 10 6])

end ChangeGate.Text
