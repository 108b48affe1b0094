import ChangeGate.Number.Power

/-!
# Double precision numbers

The finite non-negative numbers of the 64-bit binary format, with multiplication and division
rounded to the nearest of them, ties to the even significand. Everything is done on natural
numbers, so that what a rounding step does can be stated and computed.
-/

namespace ChangeGate.Number

/-- The number `significand * 2 ^ exponent`. -/
structure Binary64 where
  significand : Nat
  exponent : Int
  deriving DecidableEq, Repr, Inhabited

namespace Binary64

/-- The exponent of the smallest positive number. -/
def lowestExponent : Int := -1074

/-- The exponent of the largest numbers. -/
def highestExponent : Int := 971

/-- The bound of significands. -/
def significandBound : Nat := twoTo 53

/-- Zero. -/
def zero : Binary64 := ⟨0, lowestExponent⟩

/-- A quotient rounded to the nearest natural number, ties to the even one. -/
def roundQuotient (numerator denominator : Nat) : Nat :=
  let quotient := numerator / denominator
  let doubled := 2 * (numerator % denominator)
  if doubled < denominator then quotient
  else if doubled = denominator then quotient + quotient % 2
  else quotient + 1

/-- The numerator and denominator of `numerator / denominator` counted in units of
`2 ^ exponent`. -/
def inUnits (numerator denominator : Nat) (exponent : Int) : Nat × Nat :=
  if exponent < 0 then (numerator * twoTo exponent.natAbs, denominator)
  else (numerator, denominator * twoTo exponent.natAbs)

/-- The exponent at which a quotient has a significand of full length, or the lowest one. -/
def unitExponent (numerator denominator : Nat) : Int :=
  let guess : Int := (numerator.log2 : Int) - denominator.log2 - 52
  let (above, below) := inUnits numerator denominator guess
  max lowestExponent (if above < twoTo 52 * below then guess - 1 else guess)

/-- The nearest number to a quotient; none when it is out of range. -/
def ofQuotient (numerator denominator : Nat) : Option Binary64 :=
  let exponent := unitExponent numerator denominator
  let (above, below) := inUnits numerator denominator exponent
  let significand := roundQuotient above below
  let rounded : Binary64 :=
    if significand = significandBound then ⟨twoTo 52, exponent + 1⟩
    else ⟨significand, exponent⟩
  if rounded.exponent ≤ highestExponent then some rounded else none

/-- The numerator of a number as a quotient of natural numbers. -/
def numerator (value : Binary64) : Nat :=
  if value.exponent < 0 then value.significand else value.significand * twoTo value.exponent.natAbs

/-- The denominator of a number as a quotient of natural numbers. -/
def denominator (value : Binary64) : Nat :=
  if value.exponent < 0 then twoTo value.exponent.natAbs else 1

/-- The product of two numbers. -/
def mul? (left right : Binary64) : Option Binary64 :=
  ofQuotient (left.numerator * right.numerator) (left.denominator * right.denominator)

/-- The quotient of two numbers. -/
def div? (left right : Binary64) : Option Binary64 :=
  ofQuotient (left.numerator * right.denominator) (left.denominator * right.numerator)

/-- The nearest number to a natural number. -/
def ofNat? (value : Nat) : Option Binary64 :=
  ofQuotient value 1

end Binary64

end ChangeGate.Number
