import ChangeGate.Json.Value
import ChangeGate.Number.Shortest
import ChangeGate.Text.Numeral

/-!
# Numbers in documents

A number without fraction and exponent is an integer when it fits into 64 bits, with or
without a sign. Every other number is a double, read in one pass: as many digits as fit into
64 bits are kept, and the result is scaled by a power of ten. A number beyond the range of
doubles is none.
-/

namespace ChangeGate.Json

open ChangeGate.Number ChangeGate.Text

/-! ## Reading -/

/-- Continue a significand with digits as long as it stays below `2 ^ 64`, counting the digits
kept. -/
def keepDigits (significand kept : Nat) : List Char → Nat × Nat
  | [] => (significand, kept)
  | digit :: rest =>
      let next := 10 * significand + digitValue digit
      if next < UInt64.size then keepDigits next (kept + 1) rest else (significand, kept)

/-- The largest power of ten that a number is scaled by in one step. -/
def largestScale : Nat := 308

/-- A number scaled by `10 ^ exponent`, in steps of at most the largest scale. -/
def scale (value : Binary64) (exponent : Int) : Option Binary64 :=
  if exponent.natAbs ≤ largestScale then do
    let power ← Binary64.ofNat? (tenTo exponent.natAbs)
    if exponent < 0 then value.div? power else value.mul? power
  else if value.significand = 0 then some value
  else if 0 < exponent then none
  else do
    let power ← Binary64.ofNat? (tenTo largestScale)
    let next ← value.div? power
    scale next (exponent + largestScale)
termination_by exponent.natAbs
decreasing_by
  simp only [largestScale] at *
  omega

namespace NumberLiteral

/-- The number that the digits of an exponent stand for. -/
def exponentValue (literal : NumberLiteral) : Int :=
  match literal.exponent with
  | none => 0
  | some (negative, digits) =>
      let magnitude : Int := Nat.ofDigitChars 10 digits 0
      if negative then -magnitude else magnitude

/-- The nearest double, by the one-pass reading, without the sign. -/
def magnitude? (literal : NumberLiteral) : Option Binary64 := do
  let (whole, keptWhole) := keepDigits 0 0 literal.whole
  let (significand, keptFraction) := keepDigits whole 0 (literal.fraction.getD [])
  let dropped := literal.whole.length - keptWhole
  let start ← Binary64.ofNat? significand
  scale start (literal.exponentValue + dropped - keptFraction)

/-- A number written without fraction and exponent. -/
def isWhole (literal : NumberLiteral) : Bool :=
  literal.fraction.isNone && literal.exponent.isNone

/-- The number before the point. -/
def wholeValue (literal : NumberLiteral) : Nat :=
  Nat.ofDigitChars 10 literal.whole 0

/-- An unsigned 64-bit integer. A sign makes it none, even before a zero. -/
def uint64? (literal : NumberLiteral) : Option UInt64 :=
  if literal.isWhole && !literal.negative && literal.wholeValue < UInt64.size then
    some (UInt64.ofNat literal.wholeValue)
  else
    none

/-- An integer that keeps its form: unsigned, or negative, in 64 bits. -/
def integer? (literal : NumberLiteral) : Option Int :=
  if !literal.isWhole then none
  else if literal.negative then
    if 0 < literal.wholeValue ∧ literal.wholeValue ≤ twoTo 63 then some (-literal.wholeValue)
    else none
  else
    if literal.wholeValue < UInt64.size then some literal.wholeValue else none

end NumberLiteral

/-! ## Writing -/

/-- Where the plain form of doubles ends: the most digits before the point, and the most zeros
after it, that are written out. -/
structure PlainForm where
  digitsBefore : Int
  zerosAfter : Int

/-- Doubles are written plainly from `0.00001` up to sixteen digits before the point. -/
def plainForm : PlainForm := ⟨16, 4⟩

/-- Some zeros. -/
def zeros (count : Nat) : List Char :=
  List.replicate count '0'

/-- The text of a decimal: plain with at least one place after the point, or with an exponent
that always has a sign. -/
def decimalText (decimal : Decimal) : List Char :=
  let digits := Nat.toDigits 10 decimal.digits
  let point : Int := digits.length + decimal.exponent
  if 0 ≤ decimal.exponent ∧ point ≤ plainForm.digitsBefore then
    digits ++ zeros decimal.exponent.toNat ++ ['.', '0']
  else if 0 < point ∧ point ≤ plainForm.digitsBefore then
    digits.take point.toNat ++ '.' :: digits.drop point.toNat
  else if point ≤ 0 ∧ -point ≤ plainForm.zerosAfter then
    '0' :: '.' :: (zeros point.natAbs ++ digits)
  else
    let power := point - 1
    let fraction := match digits.drop 1 with
      | [] => []
      | others => '.' :: others
    digits.take 1 ++ fraction
      ++ 'e' :: (if power < 0 then '-' else '+') :: Nat.toDigits 10 power.natAbs

/-- The text of a double. -/
def doubleText (negative : Bool) (magnitude : Binary64) : List Char :=
  let shown :=
    if magnitude.significand = 0 then ['0', '.', '0'] else decimalText magnitude.shortest.trimZeros
  if negative then '-' :: shown else shown

/-- The text of a number read from a document; none when it is out of range. -/
def NumberLiteral.text? (literal : NumberLiteral) : Option (List Char) :=
  match literal.integer? with
  | some value =>
      let digits := Nat.toDigits 10 value.natAbs
      some (if value < 0 then '-' :: digits else digits)
  | none => literal.magnitude?.map (doubleText literal.negative)

end ChangeGate.Json
