import ChangeGate.Toml.Document
import ChangeGate.Toml.Scalar

/-!
# Reading configuration documents

A document is a sequence of lines that are empty, assign a value to a key, or name the table
that the following assignments belong to. A byte order mark may come first.
-/

namespace ChangeGate.Toml

open ChangeGate.Text

/-! ## Values -/

/-- An assignment as the parts before the last one of its key, the last part, and the value. -/
structure Assignment where
  path : List String
  key : String
  value : Value
  deriving Repr, Inhabited

/-- An assignment of what a reader of values takes. -/
def readAssignment (readValue : Reader Value) : Reader Assignment := fun text => do
  let ((first, others), rest) ← readKey text
  let rest ← textAfter? ['='] rest
  let (value, after) ← readValue (skipSpace rest)
  let parts := first :: others
  pure (⟨parts.dropLast, parts.getLast (List.cons_ne_nil _ _), value⟩, after)

/-- The rest of an array after its first bracket. Items may be spread over lines, and a comma may
follow the last one. -/
def readItems (readValue : Reader Value) : Reader (List Value) := fun text =>
  let item : Reader Value := fun text => do
    let (value, rest) ← readValue (skipGaps text)
    pure (value, skipGaps rest)
  let next : Reader Value := fun text => do item (← textAfter? [','] text)
  match skipGaps text with
  | ']' :: after => some ([], after)
  | text => do
      let (first, rest) ← item text
      let (others, rest) := readMany next rest
      let rest := skipGaps ((textAfter? [','] rest).getD rest)
      let after ← textAfter? [']'] rest
      pure (first :: others, after)

/-- The rest of a table between braces. It stands on one line, apart from what its values hold,
and no comma follows the last assignment. -/
def readBraced (readValue : Reader Value) : Reader (List Assignment) := fun text =>
  let item : Reader Assignment := fun text => do
    let (assignment, rest) ← readAssignment readValue text
    pure (assignment, skipSpace rest)
  let next : Reader Assignment := fun text => do item (← textAfter? [','] text)
  match skipSpace text with
  | '\x7d' :: after => some ([], after)
  | text => do
      let (first, rest) ← item text
      let (others, rest) := readMany next rest
      let after ← textAfter? ['\x7d'] rest
      pure (first :: others, after)

/-- The entries of a table between braces. -/
def bracedEntries (assignments : List Assignment) : Option Entries :=
  assignments.foldlM
    (fun entries assignment =>
      Entries.assign assignment.path assignment.key assignment.value .inline entries) []

/-- A value in which arrays and tables nest at most `depth` deep. -/
def readValue : (depth : Nat) → Reader Value
  | 0 => readScalar
  | depth + 1 => fun text =>
      match text with
      | '[' :: rest => do
          let (items, after) ← readItems (readValue depth) rest
          pure (.array items, after)
      | '\x7b' :: rest => do
          let (assignments, after) ← readBraced (readValue depth) rest
          pure (.table .inline (← bracedEntries assignments), after)
      | _ => readScalar text

/-! ## Lines -/

/-- What a line does. -/
inductive Statement where
  | assign (assignment : Assignment)
  /-- Name the table at a path, given as the parts before the last one and the last part. -/
  | table (path : List String) (key : String)
  /-- Start another table under a name that several tables share. -/
  | element (path : List String) (key : String)
  deriving Repr, Inhabited

/-- A header between the given brackets. -/
def readHeader (opening closing : List Char) : Reader (List String × String) := fun text => do
  let rest ← textAfter? opening text
  let ((first, others), rest) ← readKey rest
  let after ← textAfter? closing rest
  let parts := first :: others
  pure ((parts.dropLast, parts.getLast (List.cons_ne_nil _ _)), after)

/-- A statement, without what follows it on its line. -/
def readStatement : Reader Statement := fun text =>
  match text with
  | '[' :: '[' :: _ =>
      (readHeader ['[', '['] [']', ']'] text).map fun ((path, key), rest) =>
        (.element path key, rest)
  | '[' :: _ =>
      (readHeader ['['] [']'] text).map fun ((path, key), rest) => (.table path key, rest)
  | _ =>
      (readAssignment (readValue nestingLimit) text).map fun (assignment, rest) =>
        (.assign assignment, rest)

/-- A line with a statement, and the empty lines after it. -/
def readLine : Reader Statement := fun text => do
  let (statement, rest) ← readStatement text
  let after ← afterLine? rest
  pure (statement, skipGaps after)

/-- The statements of a document. -/
def readStatements (text : List Char) : Option (List Statement) :=
  match readMany readLine (skipGaps text) with
  | (statements, []) => some statements
  | _ => none

/-! ## Documents -/

/-- A document under construction: its entries, and the path of the table that assignments
belong to. -/
structure Draft where
  entries : Entries := []
  current : List String := []
  deriving Repr, Inhabited

/-- Carry out a statement. -/
def Draft.perform (draft : Draft) : Statement → Option Draft
  | .assign assignment => do
      let assign := Entries.assign assignment.path assignment.key assignment.value
      let entries ← Entries.changeAt .implied assign draft.current .header draft.entries
      pure { draft with entries }
  | .table path key => do
      let entries ← Entries.changeAt .implied (Entries.nameTable key) path .header draft.entries
      pure ⟨entries, path ++ [key]⟩
  | .element path key => do
      let start := Entries.startElement key
      let entries ← Entries.changeAt .implied start path .header draft.entries
      pure ⟨entries, path ++ [key]⟩

/-- The text of a document after its byte order mark. -/
def withoutMark : List Char → List Char
  | '\uFEFF' :: rest => rest
  | text => text

/-- Read a document. -/
def parse? (text : String) : Option Entries := do
  let statements ← readStatements (withoutMark text.toList)
  let draft ← statements.foldlM Draft.perform {}
  pure draft.entries

end ChangeGate.Toml
