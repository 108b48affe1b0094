import ChangeGate.Text.Blank
import ChangeGate.Text.Hex

/-!
# Tables of characters

Which characters have a property is written as a text: codes in hexadecimal with blanks between,
and a range of them by its first and its last code with a hyphen between.
-/

namespace ChangeGate.Text

/-- The items of a table, which blanks divide. -/
def tableItems (table : String) : List (List Char) :=
  (table.toList.splitOnP isBlank).filter (!·.isEmpty)

/-- A number in a table. -/
def tableNumber (digits : List Char) : Nat :=
  (hexNumber? digits).getD 0

/-- A character in a table. -/
def tableChar (digits : List Char) : Char :=
  Char.ofNat (tableNumber digits)

/-- The codes from a first one to a last one. -/
structure CodeRange where
  first : Nat
  last : Nat
  deriving DecidableEq, Repr, Inhabited

namespace CodeRange

/-- A code is in the range. -/
def contains (range : CodeRange) (code : Nat) : Bool :=
  range.first ≤ code && code ≤ range.last

/-- Read a range, whose ends the divider stands between, or a single code. -/
def read (divider : Char) (item : List Char) : CodeRange :=
  let first := item.takeWhile (· ≠ divider)
  let last := item.drop (first.length + 1)
  ⟨tableNumber first, tableNumber (if last.isEmpty then first else last)⟩

end CodeRange

/-- A set of characters by the ranges of their codes. -/
abbrev CodeSet := List CodeRange

namespace CodeSet

/-- The set that a table describes. -/
def ofTable (table : String) : CodeSet :=
  (tableItems table).map (CodeRange.read '-')

/-- A character is in the set. -/
def contains (codes : CodeSet) (c : Char) : Bool :=
  codes.any (·.contains c.toNat)

end CodeSet

/-- A value for every character of some ranges. -/
abbrev CodeMap (α : Type) := List (CodeRange × α)

namespace CodeMap

variable {α : Type}

/-- The values that some tables describe, each for the characters of its table. -/
def ofTables (tables : List (α × String)) : CodeMap α :=
  tables.flatMap fun (value, table) => (CodeSet.ofTable table).map (·, value)

/-- The value for a character. -/
def find? (codes : CodeMap α) (c : Char) : Option α :=
  (List.find? (fun (range, _) => range.contains c.toNat) codes).map (·.2)

end CodeMap

end ChangeGate.Text
