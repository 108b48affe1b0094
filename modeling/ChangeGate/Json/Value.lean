/-!
# Documents as written

A document keeps what its text says: numbers as their digits, the members of an object in
order and with repetitions. A string that holds half of a surrogate pair is no text; it is
kept as an absent text, since it matters only where the text is used.
-/

namespace ChangeGate.Json

/-- A number as its sign and digits. -/
structure NumberLiteral where
  negative : Bool
  whole : List Char
  /-- The digits after the point. -/
  fraction : Option (List Char) := none
  /-- The sign and the digits of the exponent. -/
  exponent : Option (Bool × List Char) := none
  deriving DecidableEq, Repr, Inhabited

/-- A document. -/
inductive Value where
  | null
  | bool (value : Bool)
  | number (literal : NumberLiteral)
  | string (text : Option String)
  | array (items : List Value)
  | object (members : List (Option String × Value))
  deriving Repr, Inhabited

namespace Value

/-- A text as a document. -/
def ofText (text : String) : Value :=
  .string (some text)

/-- A number as a document. -/
def ofNat (value : Nat) : Value :=
  .number { negative := false, whole := Nat.toDigits 10 value }

/-- A list as a document. -/
def ofList {α : Type} (ofItem : α → Value) (items : List α) : Value :=
  .array (items.map ofItem)

/-- A value that may be absent as a document. -/
def ofOption {α : Type} (ofSome : α → Value) : Option α → Value
  | none => .null
  | some value => ofSome value

/-- A record as a document. -/
def ofMembers (members : List (String × Value)) : Value :=
  .object (members.map fun (key, value) => (some key, value))

end Value

end ChangeGate.Json
