import ChangeGate.Number.Binary64

/-!
# Shortest decimals

The decimal with the fewest digits that still rounds to a given double. The numbers that round
to it form an interval around it; the decimals of a fixed number of digits form a grid, and if
any point of the grid lies in the interval then one of the two next to the number does.
-/

namespace ChangeGate.Number

/-- The decimal `digits * 10 ^ exponent`. -/
structure Decimal where
  digits : Nat
  exponent : Int
  deriving DecidableEq, Repr, Inhabited

/-- The comparison of a decimal with the quotient `numerator / denominator`. -/
def Decimal.compareQuotient (decimal : Decimal) (numerator denominator : Nat) : Ordering :=
  if decimal.exponent < 0 then
    compare (decimal.digits * denominator) (numerator * tenTo decimal.exponent.natAbs)
  else
    compare (decimal.digits * tenTo decimal.exponent.natAbs * denominator) numerator

namespace Binary64

/-- Four times a number, so that the halves and quarters of its last place are whole. -/
def scaledNumerator (value : Binary64) : Nat := 4 * value.numerator

/-- The lower end of the interval of numbers that round to this one, in quarters: half a step
down, or a quarter where the step changes. -/
def lowerEnd (value : Binary64) : Nat :=
  let step := value.numerator / value.significand
  if value.significand = twoTo 52 && value.exponent > lowestExponent then value.scaledNumerator - step
  else value.scaledNumerator - 2 * step

/-- The upper end of the interval of numbers that round to this one, in quarters. -/
def upperEnd (value : Binary64) : Nat :=
  value.scaledNumerator + 2 * (value.numerator / value.significand)

/-- A decimal that rounds to this number. The ends of the interval count when the significand
is even. -/
def isShownBy (value : Binary64) (decimal : Decimal) : Bool :=
  let denominator := 4 * value.denominator
  let low := decimal.compareQuotient value.lowerEnd denominator
  let high := decimal.compareQuotient value.upperEnd denominator
  if value.significand % 2 = 0 then low != .lt && high != .gt else low == .gt && high == .lt

/-- A number divided by `10 ^ exponent` as a quotient. -/
def inTens (value : Binary64) (exponent : Int) : Nat × Nat :=
  if exponent < 0 then (value.numerator * tenTo exponent.natAbs, value.denominator)
  else (value.numerator, value.denominator * tenTo exponent.natAbs)

/-- The decimals next to a number on the grid of multiples of `10 ^ exponent`, the nearer one
first and the even one first when both are equally near. -/
def neighbours (value : Binary64) (exponent : Int) : List Decimal :=
  let (above, below) := value.inTens exponent
  let quotient := above / below
  let doubled := 2 * (above % below)
  let down : Decimal := ⟨quotient, exponent⟩
  let up : Decimal := ⟨quotient + 1, exponent⟩
  if doubled < below || (doubled = below && quotient % 2 = 0) then [down, up] else [up, down]

/-- The place of the first digit of a positive number: the least one with the number below
`10 ^ place`, found from an estimate by the logarithm that is at most three too low. -/
def place (value : Binary64) : Int :=
  let estimate := ((value.significand.log2 : Int) + value.exponent) * 30103 / 100000 - 1
  let candidates := [0, 1, 2, 3].map (estimate + ·)
  (candidates.find? fun place =>
    (Decimal.mk 1 place).compareQuotient value.numerator value.denominator == .gt).getD estimate

/-- The shortest decimal that shows a positive number. Seventeen digits are always enough. -/
def shortest (value : Binary64) : Decimal :=
  ((List.range 17).findSome? fun length : Nat =>
    (value.neighbours (value.place - (length + 1))).find? value.isShownBy).getD ⟨0, 0⟩

end Binary64

/-- A decimal without the zeros its digits end with. -/
def Decimal.trimZeros (decimal : Decimal) : Decimal :=
  if decimal.digits ≠ 0 ∧ decimal.digits % 10 = 0 then
    Decimal.trimZeros ⟨decimal.digits / 10, decimal.exponent + 1⟩
  else
    decimal
termination_by decimal.digits
decreasing_by omega

end ChangeGate.Number
