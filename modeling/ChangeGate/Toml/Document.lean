import ChangeGate.Toml.Value

/-!
# Building a document

Assignments and headers add to a document one after another. A key is assigned once. A table is
named by one header, and a dotted key may go on only through tables that dotted keys, or headers
of tables inside them, have brought about. A header that is repeated with double brackets starts
another table of the same name, and a path through that name goes to the last of them.
-/

namespace ChangeGate.Toml.Entries

/-- Change the table at the end of a path below a table of some kind, bringing about the tables
on the way as `kind`. A path goes through no value and no table between braces, and as the path
of a dotted key through no table that has a header of its own. -/
def changeAt (kind : TableKind) (change : TableKind → Entries → Option Entries) :
    List String → TableKind → Entries → Option Entries
  | [], reached, entries => change reached entries
  | key :: path, _, entries =>
      match entries.get? key with
      | none => do
          let inner ← changeAt kind change path kind []
          pure (entries.add key (.table kind inner))
      | some (.table inside inner) =>
          if inside = .inline ∨ (kind = .dotted ∧ inside = .header) then none
          else do
            let inner ← changeAt kind change path inside inner
            pure (entries.replace key (.table inside inner))
      | some (.tables elements) =>
          match elements.getLast? with
          | none => none
          | some last => do
              let last ← changeAt kind change path .header last
              pure (entries.replace key (.tables (elements.dropLast ++ [last])))
      | some _ => none

/-- Assign a value to a key of a table. A dotted key ends in a table that dotted keys brought
about, and a key without dots does not. -/
def assignIn (isDotted : Bool) (key : String) (value : Value) (kind : TableKind)
    (entries : Entries) : Option Entries :=
  if isDotted ≠ (kind = .dotted : Bool) then none
  else if (entries.get? key).isSome then none
  else some (entries.add key value)

/-- Assign a value to a dotted key, given as its last part and the parts before it. -/
def assign (path : List String) (key : String) (value : Value) (kind : TableKind)
    (entries : Entries) : Option Entries :=
  changeAt .dotted (assignIn (!path.isEmpty) key value) path kind entries

/-- Name a table by a header. A table brought about by the header of a table inside it may still
be named. -/
def nameTable (key : String) (_ : TableKind) (entries : Entries) : Option Entries :=
  match entries.get? key with
  | none => some (entries.add key (.table .header []))
  | some (.table .implied inner) => some (entries.replace key (.table .header inner))
  | some _ => none

/-- Start another table under a header with double brackets. -/
def startElement (key : String) (_ : TableKind) (entries : Entries) : Option Entries :=
  match entries.get? key with
  | none => some (entries.add key (.tables [[]]))
  | some (.tables elements) => some (entries.replace key (.tables (elements ++ [[]])))
  | some _ => none

end ChangeGate.Toml.Entries
