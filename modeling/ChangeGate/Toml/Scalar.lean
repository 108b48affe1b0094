import ChangeGate.Number.Binary64
import ChangeGate.Toml.Scanner
import ChangeGate.Toml.Value

/-!
# Numbers and dates in configuration texts

Integers may have a sign and be grouped by underscores, and without a sign they may be written
in base 16, 8 or 2; they fit into 64 bits with a sign. A float has a fraction or an exponent, or
is one of the words `inf` and `nan`. Dates must exist in the calendar.
-/

namespace ChangeGate.Toml

open ChangeGate.Number ChangeGate.Text

/-- The digits that go on after a first one. An underscore may stand between two digits. -/
def moreDigits (isDigit : Char → Bool) : List Char → List Char × List Char
  | '_' :: c :: rest =>
      if isDigit c then
        let (digits, after) := moreDigits isDigit rest
        (c :: digits, after)
      else ([], '_' :: c :: rest)
  | c :: rest =>
      if isDigit c then
        let (digits, after) := moreDigits isDigit rest
        (c :: digits, after)
      else ([], c :: rest)
  | [] => ([], [])

/-- Digits, of which there must be one. -/
def readDigits (isDigit : Char → Bool) : Reader (List Char)
  | c :: rest =>
      if isDigit c then
        let (digits, after) := moreDigits isDigit rest
        some (c :: digits, after)
      else none
  | [] => none

/-- Whether a number has a minus sign, and what follows its sign. -/
def readSign : List Char → Bool × List Char
  | '-' :: rest => (true, rest)
  | '+' :: rest => (false, rest)
  | text => (false, text)

/-- The digits before the point. A zero stands alone. -/
def readWhole : Reader (List Char)
  | '0' :: rest => some (['0'], rest)
  | text => readDigits Char.isDigit text

/-- An integer that fits into 64 bits with a sign. -/
def signed64 (value : Int) : Option Value :=
  if -(twoTo 63 : Int) ≤ value ∧ value < twoTo 63 then some (.integer value) else none

/-- The number written by some digits in a base. -/
def valueInBase (base : Nat) (digits : List Char) : Nat :=
  digits.foldl (fun value c => base * value + (hexValue? c).getD 0) 0

/-- An integer with a mark for its base. -/
def readMarkedInteger : Reader Value := fun text => do
  let (base, rest) ← match text with
    | '0' :: 'x' :: rest => some (16, rest)
    | '0' :: 'o' :: rest => some (8, rest)
    | '0' :: 'b' :: rest => some (2, rest)
    | _ => none
  let (digits, after) ← readDigits (fun c => ((hexValue? c).any (· < base))) rest
  pure ((← signed64 (valueInBase base digits)), after)

/-- The digits of a fraction, if there is one. -/
def readFraction : List Char → Option (Option (List Char) × List Char)
  | '.' :: rest => (readDigits Char.isDigit rest).map fun (digits, after) => (some digits, after)
  | text => some (none, text)

/-- The value of an exponent, if there is one. -/
def readExponent : List Char → Option (Option Int × List Char)
  | c :: rest =>
      if c = 'e' || c = 'E' then do
        let (negative, unsigned) := readSign rest
        let (digits, after) ← readDigits Char.isDigit unsigned
        let magnitude : Int := valueInBase 10 digits
        pure (some (if negative then -magnitude else magnitude), after)
      else some (none, c :: rest)
  | [] => some (none, [])

/-- The decimal places from which on every number is out of the range of doubles. -/
def farPlaces : Int := 400

/-- The number `digits * 10 ^ exponent` is within the range of doubles. -/
def isInRange (digits : List Char) (exponent : Int) : Bool :=
  let significand := valueInBase 10 digits
  if significand = 0 || digits.length + exponent < 0 then true
  else if farPlaces < exponent then false
  else if exponent < 0 then (Binary64.ofQuotient significand (tenTo exponent.natAbs)).isSome
  else (Binary64.ofQuotient (significand * tenTo exponent.natAbs) 1).isSome

/-- The infinity or the number that is none, with or without a sign. -/
def readSpecialFloat : Reader Value := fun text =>
  let (_, unsigned) := readSign text
  ((textAfter? "inf".toList unsigned).or (textAfter? "nan".toList unsigned)).map fun rest =>
    (.float, rest)

/-- A decimal integer or a float. A float above the largest double is refused, one below the
smallest is not. -/
def readDecimal : Reader Value := fun text => do
  let (negative, unsigned) := readSign text
  let (whole, afterWhole) ← readWhole unsigned
  let (fraction, afterFraction) ← readFraction afterWhole
  let (exponent, after) ← readExponent afterFraction
  match fraction, exponent with
  | none, none =>
      let magnitude : Int := valueInBase 10 whole
      pure ((← signed64 (if negative then -magnitude else magnitude)), after)
  | _, _ =>
      let places := fraction.getD []
      if negative || isInRange (whole ++ places) (exponent.getD 0 - places.length) then
        pure (.float, after)
      else none

/-! ## Dates -/

/-- A number of exactly `count` digits. -/
def readPlaces (count : Nat) : Reader Nat := fun text =>
  let digits := text.take count
  if digits.length = count && digits.all Char.isDigit then
    some (valueInBase 10 digits, text.drop count)
  else none

/-- A number of two digits from `low` to `high`. -/
def readTwo (low high : Nat) : Reader Nat := fun text => do
  let (value, rest) ← readPlaces 2 text
  if low ≤ value ∧ value ≤ high then some (value, rest) else none

/-- How many days a month has. -/
def daysIn (year month : Nat) : Nat :=
  if month = 2 then
    if year % 4 = 0 ∧ (year % 100 ≠ 0 ∨ year % 400 = 0) then 29 else 28
  else if month = 4 ∨ month = 6 ∨ month = 9 ∨ month = 11 then 30
  else 31

/-- A calendar date. -/
def readDay : Reader Unit := fun text => do
  let (year, rest) ← readPlaces 4 text
  let rest ← textAfter? ['-'] rest
  let (month, rest) ← readTwo 1 12 rest
  let rest ← textAfter? ['-'] rest
  let (_, rest) ← readTwo 1 (daysIn year month) rest
  pure ((), rest)

/-- A time of day; the minute may have a leap second. -/
def readTime : Reader Unit := fun text => do
  let (_, rest) ← readTwo 0 23 text
  let rest ← textAfter? [':'] rest
  let (_, rest) ← readTwo 0 59 rest
  let rest ← textAfter? [':'] rest
  let (_, rest) ← readTwo 0 60 rest
  match rest with
  | '.' :: places => do
      match places.takeWhile Char.isDigit with
      | [] => none
      | _ => pure ((), places.dropWhile Char.isDigit)
  | _ => pure ((), rest)

/-- The offset of a time from universal time. -/
def readOffset : Reader Unit
  | 'Z' :: rest => some ((), rest)
  | 'z' :: rest => some ((), rest)
  | sign :: rest =>
      if sign = '+' || sign = '-' then do
        let (_, rest) ← readTwo 0 23 rest
        let rest ← textAfter? [':'] rest
        let (_, rest) ← readTwo 0 59 rest
        pure ((), rest)
      else none
  | [] => none

/-- A time after a date, with or without an offset. -/
def readTimeOfDay : Reader Unit
  | mark :: rest =>
      if mark = 'T' || mark = 't' || mark = ' ' then do
        let (_, after) ← readTime rest
        pure ((readOffset after).getD ((), after))
      else none
  | [] => none

/-- A date, a time, or both. -/
def readDate : Reader Value := fun text =>
  match readDay text with
  | some (_, rest) => some (.date, ((readTimeOfDay rest).map (·.2)).getD rest)
  | none => (readTime text).map fun (_, rest) => (.date, rest)

/-- A number or a date. -/
def readNumber : Reader Value := fun text =>
  (readDate text).or <| (readMarkedInteger text).or <|
    (readSpecialFloat text).or (readDecimal text)

/-- A value other than an array or a table between braces. -/
def readScalar : Reader Value := fun text =>
  match text with
  | '"' :: _ => (readString text).map fun (text, rest) => (.string text, rest)
  | '\'' :: _ => (readString text).map fun (text, rest) => (.string text, rest)
  | 't' :: 'r' :: 'u' :: 'e' :: rest => some (.bool true, rest)
  | 'f' :: 'a' :: 'l' :: 's' :: 'e' :: rest => some (.bool false, rest)
  | _ => readNumber text

end ChangeGate.Toml
