/-!
# Configuration documents

A document is a table of named values. A table remembers how it came to be, which decides what
may still be added to it.
-/

namespace ChangeGate.Toml

/-- How a table came to be. -/
inductive TableKind where
  /-- Named by a header of its own, or the whole document. -/
  | header
  /-- On the way to the table of a header. -/
  | implied
  /-- On the way to a dotted key. -/
  | dotted
  /-- Written between braces. -/
  | inline
  deriving DecidableEq, Repr, Inhabited

/-- A value. Of floats and dates only the kind is kept. -/
inductive Value where
  | string (text : String)
  | integer (value : Int)
  | float
  | bool (value : Bool)
  | date
  | array (items : List Value)
  | table (kind : TableKind) (entries : List (String × Value))
  /-- Tables that share one header, in order. -/
  | tables (elements : List (List (String × Value)))
  deriving Repr, Inhabited

/-- The entries of a table. -/
abbrev Entries := List (String × Value)

namespace Entries

/-- The value under a key. -/
def get? (entries : Entries) (key : String) : Option Value :=
  (entries.find? (·.1 = key)).map (·.2)

/-- Put another value under a key that is there. -/
def replace (entries : Entries) (key : String) (value : Value) : Entries :=
  entries.map fun entry => if entry.1 = key then (key, value) else entry

/-- Add a value under a new key. -/
def add (entries : Entries) (key : String) (value : Value) : Entries :=
  entries ++ [(key, value)]

end Entries

end ChangeGate.Toml
