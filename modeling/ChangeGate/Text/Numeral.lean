import ChangeGate.Text.Digit

/-!
# Unsigned numerals

Reading an unsigned number of bounded size from its decimal text, and the reasons for
which a text is none. One leading plus sign and any leading zeros are allowed.
-/

namespace ChangeGate.Text

/-- Why a text is not an unsigned numeral. -/
inductive NumeralError where
  /-- There is no text. -/
  | empty
  /-- A character is not an ASCII digit, or a sign stands alone. -/
  | invalidDigit
  /-- The number is not below the bound. -/
  | tooLarge
  deriving DecidableEq, Repr, Inhabited

/-- The wording of a numeral error. -/
def NumeralError.message : NumeralError → String
  | .empty => "cannot parse integer from empty string"
  | .invalidDigit => "invalid digit found in string"
  | .tooLarge => "number too large to fit in target type"

/-- The value of an ASCII digit. -/
def digitValue (c : Char) : Nat :=
  c.toNat - '0'.toNat

/-- Continue a number below `bound` with further digits. The first character that is no
digit, or that makes the number too large, decides the error. -/
def readDigits (bound : Nat) : Nat → List Char → Except NumeralError Nat
  | value, [] => .ok value
  | value, c :: rest =>
      if c.isDigit then
        let next := 10 * value + digitValue c
        if next < bound then readDigits bound next rest else .error .tooLarge
      else
        .error .invalidDigit

/-- Read a number below `bound`. -/
def readNumeral (bound : Nat) : List Char → Except NumeralError Nat
  | [] => .error .empty
  | ['+'] => .error .invalidDigit
  | '+' :: digits => readDigits bound 0 digits
  | digits => readDigits bound 0 digits

/-- Read a 64-bit unsigned number. -/
def readUInt64 (text : List Char) : Except NumeralError UInt64 :=
  (readNumeral UInt64.size text).map UInt64.ofNat

/-- Read a 32-bit unsigned number. -/
def readUInt32 (text : List Char) : Except NumeralError UInt32 :=
  (readNumeral UInt32.size text).map UInt32.ofNat

/-- The decimal text of a number. -/
def numeral (value : Nat) : String :=
  String.ofList (Nat.toDigits 10 value)

@[simp] theorem toList_numeral (value : Nat) :
    (numeral value).toList = Nat.toDigits 10 value :=
  String.toList_ofList

end ChangeGate.Text
