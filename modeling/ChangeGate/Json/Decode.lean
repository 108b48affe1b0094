import Std.Data.ExtTreeMap
import ChangeGate.Json.Number

/-!
# Records in documents

How the values of a known record are taken from a document. A record is an object whose known
keys come once, or an array of its values in order; unknown keys are passed over. A value of
another kind than expected makes the record unreadable.
-/

namespace ChangeGate.Json

/-- The keys of an object as texts. -/
def textKeys (members : List (Option String × Value)) : Option (List (String × Value)) :=
  members.mapM fun (key, value) => key.map (·, value)

/-- The value under a key; a repeated key is an error. -/
def uniqueValue (members : List (String × Value)) (name : String) : Option (Option Value) :=
  match members.filter (·.1 = name) with
  | [] => some none
  | [(_, value)] => some (some value)
  | _ => none

/-- The values of a record with these keys, absent ones included. -/
def fields (names : List String) : Value → Option (List (Option Value))
  | .object members => do
      let members ← textKeys members
      names.mapM (uniqueValue members)
  | .array items =>
      if items.length ≤ names.length then
        some ((List.range names.length).map fun place => items[place]?)
      else
        none
  | _ => none

/-- A value that must be present. -/
def required {α : Type} (decode : Value → Option α) (value : Option Value) : Option α :=
  value.bind decode

/-- A value that stands for itself when present. -/
def orDefault {α : Type} (default : α) (decode : Value → Option α) : Option Value → Option α
  | none => some default
  | some value => decode value

/-- A value that may be null. -/
def nullable {α : Type} (decode : Value → Option α) : Value → Option (Option α)
  | .null => some none
  | value => (decode value).map some

/-- A text. -/
def text? : Value → Option String
  | .string text => text
  | _ => none

/-- A truth value. -/
def bool? : Value → Option Bool
  | .bool value => some value
  | _ => none

/-- An unsigned 64-bit integer. -/
def uint64? : Value → Option UInt64
  | .number literal => literal.uint64?
  | _ => none

/-- A list. -/
def list? {α : Type} (decode : Value → Option α) : Value → Option (List α)
  | .array items => items.mapM decode
  | _ => none

/-- A map from texts. Of a repeated key the last value counts. -/
def map? {α : Type} (decode : Value → Option α) : Value → Option (Std.ExtTreeMap String α)
  | .object members => do
      let entries ← members.mapM fun (key, value) => do
        pure ((← key), (← decode value))
      pure (.ofList entries)
  | _ => none

end ChangeGate.Json
