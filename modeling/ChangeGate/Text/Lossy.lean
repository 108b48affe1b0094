/-!
# Bytes as text

The text that some bytes spell in UTF-8. Where they spell no character, the longest run of
bytes that could have started one is shown as a single replacement character.
-/

namespace ChangeGate.Text

/-- What stands for bytes that spell no character. -/
def replacement : Char := '\uFFFD'

/-- The range of second bytes after a first byte of three or four: some first bytes admit only
part of the range of continuation bytes. -/
def secondBytes (first : UInt8) : UInt8 × UInt8 :=
  if first = 0xE0 then (0xA0, 0xBF)
  else if first = 0xED then (0x80, 0x9F)
  else if first = 0xF0 then (0x90, 0xBF)
  else if first = 0xF4 then (0x80, 0x8F)
  else (0x80, 0xBF)

/-- A byte that may follow in a character. -/
def isContinuation (byte : UInt8) : Bool :=
  0x80 ≤ byte && byte ≤ 0xBF

/-- How many bytes follow the first one in a character; none when no character starts so. -/
def followingBytes? (first : UInt8) : Option Nat :=
  if first < 0x80 then some 0
  else if 0xC2 ≤ first && first ≤ 0xDF then some 1
  else if 0xE0 ≤ first && first ≤ 0xEF then some 2
  else if 0xF0 ≤ first && first ≤ 0xF4 then some 3
  else none

/-- The bits that a first byte contributes, when `following` bytes follow it. -/
def leadingBits (first : UInt8) (following : Nat) : Nat :=
  match following with
  | 0 => first.toNat
  | 1 => first.toNat % 0x20
  | 2 => first.toNat % 0x10
  | _ => first.toNat % 0x08

/-- Read `count` more continuation bytes onto the bits read so far; without them, the
replacement character and the bytes from the first that does not fit. -/
def readContinuations (bits : Nat) : Nat → List UInt8 → Char × List UInt8
  | 0, bytes => (Char.ofNat bits, bytes)
  | _ + 1, [] => (replacement, [])
  | count + 1, byte :: rest =>
      if isContinuation byte then readContinuations (bits * 0x40 + byte.toNat % 0x40) count rest
      else (replacement, byte :: rest)

/-- The character at the start of the bytes `first :: rest`, and the bytes after it. -/
def readChar (first : UInt8) (rest : List UInt8) : Char × List UInt8 :=
  match followingBytes? first with
  | none => (replacement, rest)
  | some 0 => (Char.ofNat first.toNat, rest)
  | some (following + 1) =>
      match rest with
      | [] => (replacement, [])
      | second :: others =>
          let (low, high) := secondBytes first
          if low ≤ second && second ≤ high then
            readContinuations (leadingBits first (following + 1) * 0x40 + second.toNat % 0x40)
              following others
          else
            (replacement, second :: others)

theorem length_readContinuations_le (bits count : Nat) (bytes : List UInt8) :
    (readContinuations bits count bytes).2.length ≤ bytes.length := by
  fun_induction readContinuations bits count bytes with
  | case1 => exact Nat.le_refl _
  | case2 => exact Nat.le_refl _
  | case3 _ _ _ _ _ ih => exact Nat.le_succ_of_le ih
  | case4 => exact Nat.le_refl _

/-- A character takes its first byte at least. -/
theorem length_readChar_le (first : UInt8) (rest : List UInt8) :
    (readChar first rest).2.length ≤ rest.length := by
  unfold readChar
  split
  · exact Nat.le_refl _
  · exact Nat.le_refl _
  · split
    · exact Nat.le_refl _
    · simp only
      split
      · exact Nat.le_succ_of_le (length_readContinuations_le _ _ _)
      · exact Nat.le_refl _

/-- The characters that some bytes spell. -/
def readChars : List UInt8 → List Char
  | [] => []
  | first :: rest =>
      (readChar first rest).1 :: readChars (readChar first rest).2
termination_by bytes => bytes.length
decreasing_by
  have := length_readChar_le first rest
  simp only [List.length_cons]
  omega

/-- The text that some bytes spell. -/
def lossyText (bytes : ByteArray) : String :=
  match String.fromUTF8? bytes with
  | some text => text
  | none => String.ofList (readChars bytes.toList)

end ChangeGate.Text
