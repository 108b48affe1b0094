/-!
# Powers

The powers of the two bases in which numbers are kept and written.
-/

namespace ChangeGate.Number

/-- A power of two. -/
def twoTo (exponent : Nat) : Nat := Nat.pow 2 exponent

/-- A power of ten. -/
def tenTo (exponent : Nat) : Nat := Nat.pow 10 exponent

end ChangeGate.Number
