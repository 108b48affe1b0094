import ChangeGate.Text.Hex
import ChangeGate.Text.Numeral

/-!
# Addresses of eight pieces

An address of eight pieces of sixteen bits, written between colons. A pair of colons stands once
for one or more pieces of zero, and the last two pieces may be written as four bytes. The text of
an address leaves out the first of its longest runs of zeros, if that has two pieces or more.
-/

namespace ChangeGate.Url

open ChangeGate.Text

/-- A piece: one to four hexadecimal digits. -/
def piece? (digits : List Char) : Option Nat :=
  if digits.isEmpty || 4 < digits.length then none else hexNumber? digits

/-- A byte in decimal notation without leading zeros. -/
def decimalByte? (digits : List Char) : Option Nat :=
  match digits with
  | [] => none
  | ['0'] => some 0
  | '0' :: _ => none
  | digits => (readNumeral 256 digits).toOption.filter fun _ => digits.all Char.isDigit

/-- The two pieces that four bytes between dots write. -/
def pieceBytes? (text : List Char) : Option (List Nat) := do
  let [a, b, c, d] ← (text.splitOn '.').mapM decimalByte? | none
  pure [256 * a + b, 256 * c + d]

/-- Pieces between colons; the last of them may be written as bytes. -/
def pieces? (mayEndInBytes : Bool) (text : List Char) : Option (List Nat) :=
  if text.isEmpty then some []
  else
    let parts := text.splitOn ':'
    let last := parts.getLast?.getD []
    if mayEndInBytes && last.contains '.' then do
      pure ((← parts.dropLast.mapM piece?) ++ (← pieceBytes? last))
    else
      parts.mapM piece?

/-- What stands before and after the first pair of colons. -/
def splitAtPair : List Char → Option (List Char × List Char)
  | ':' :: ':' :: rest => some ([], rest)
  | c :: rest => (splitAtPair rest).map fun (before, after) => (c :: before, after)
  | [] => none

/-- Read an address. -/
def parseIpv6? (text : List Char) : Option (List Nat) := do
  match splitAtPair text with
  | none =>
      let pieces ← pieces? true text
      if pieces.length = 8 then pure pieces else none
  | some (before, after) =>
      let before ← pieces? false before
      let after ← pieces? true after
      let given := before.length + after.length
      if given < 8 then pure (before ++ List.replicate (8 - given) 0 ++ after) else none

/-- The length of the run of zeros that some pieces start with. -/
def zeroRun (pieces : List Nat) : Nat :=
  (pieces.takeWhile (· = 0)).length

/-- The length of the longest run of zeros. -/
def longestZeroRun : List Nat → Nat
  | [] => 0
  | piece :: rest => max (zeroRun (piece :: rest)) (longestZeroRun rest)

/-- The pieces before the first run of zeros of a length, and those after it. -/
def splitAtZeros (length : Nat) : List Nat → List Nat × List Nat
  | [] => ([], [])
  | piece :: rest =>
      if zeroRun (piece :: rest) = length then ([], (piece :: rest).drop length)
      else
        let (before, after) := splitAtZeros length rest
        (piece :: before, after)

/-- Pieces between colons. -/
def piecesText (pieces : List Nat) : List Char :=
  [':'].intercalate (pieces.map hexDigits)

/-- The text of an address. -/
def ipv6Text (pieces : List Nat) : List Char :=
  let length := longestZeroRun pieces
  if length < 2 then piecesText pieces
  else
    let (before, after) := splitAtZeros length pieces
    piecesText before ++ [':', ':'] ++ piecesText after

end ChangeGate.Url
