import ChangeGate.Number.Power
import ChangeGate.Text.Hex
import ChangeGate.Text.Numeral

/-!
# Addresses of four bytes

The spellings of an address of four bytes: one to four numbers between dots, in decimal, octal
or hexadecimal notation, the last of which fills all the bytes that are left. The address is
always written as four decimal numbers.
-/

namespace ChangeGate.Url

open ChangeGate.Number ChangeGate.Text

/-- The number that some digits of a base write. -/
def numberInBase? (base : Nat) (digits : List Char) : Option Nat :=
  digits.foldlM (fun value digit => do
    let next ← hexValue? digit
    if next < base then pure (base * value + next) else none) 0

/-- A part of an address: a number in the notation that its first characters announce. -/
def ipv4Part? : List Char → Option Nat
  | [] => none
  | '0' :: 'x' :: digits => numberInBase? 16 digits
  | '0' :: 'X' :: digits => numberInBase? 16 digits
  | '0' :: digit :: digits => numberInBase? 8 (digit :: digits)
  | digits => numberInBase? 10 digits

/-- A host without the dot it ends with. -/
def withoutFinalDot (labels : List (List Char)) : List (List Char) :=
  if labels.getLast? = some [] then labels.dropLast else labels

/-- A host whose last label looks like a number, so that it must be an address. -/
def endsInNumber (host : List Char) : Bool :=
  match (withoutFinalDot (host.splitOn '.')).getLast? with
  | some [] => false
  | some label => label.all Char.isDigit || (ipv4Part? label).isSome
  | none => false

/-- The value of an address from its parts. -/
def ipv4OfParts? (parts : List Nat) : Option Nat := do
  let last ← parts.getLast?
  let leading := parts.dropLast
  if 3 < leading.length then none
  else if leading.any (255 < ·) then none
  else if twoTo (8 * (4 - leading.length)) ≤ last then none
  else
    let places := leading.zipIdx.map fun (part, place) => part * twoTo (8 * (3 - place))
    pure (places.foldl (· + ·) last)

/-- Read an address. -/
def parseIpv4? (host : List Char) : Option Nat := do
  ipv4OfParts? (← (withoutFinalDot (host.splitOn '.')).mapM ipv4Part?)

/-- The text of an address. -/
def ipv4Text (address : Nat) : String :=
  String.intercalate "."
    ([3, 2, 1, 0].map fun place => numeral (address / twoTo (8 * place) % 256))

end ChangeGate.Url
