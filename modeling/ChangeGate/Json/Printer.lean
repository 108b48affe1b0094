import Std.Data.ExtTreeMap
import ChangeGate.Json.Number

/-!
# Writing documents

The compact text of a document: no white space, the keys of each object in order, and of
repeated keys the last value. A document has such a text only if its strings are texts, its
numbers are in range and it does not nest deeper than a limit.
-/

namespace ChangeGate.Json

/-- Two lower-case hexadecimal digits. -/
def hexByte (code : Nat) : List Char :=
  [Nat.digitChar (code / 16 % 16), Nat.digitChar (code % 16)]

/-- How a character is written in a string: quotes, backslashes and controls are escaped. -/
def escape (c : Char) : List Char :=
  match c with
  | '"' => ['\\', '"']
  | '\\' => ['\\', '\\']
  | '\x08' => ['\\', 'b']
  | '\x0c' => ['\\', 'f']
  | '\n' => ['\\', 'n']
  | '\r' => ['\\', 'r']
  | '\t' => ['\\', 't']
  | _ => if c.toNat < 0x20 then ['\\', 'u', '0', '0'] ++ hexByte c.toNat else [c]

/-- A string in quotes. -/
def quote (text : String) : List Char :=
  '"' :: text.toList.flatMap escape ++ ['"']

/-- Texts between brackets, divided by commas. -/
def bracketed (opening closing : Char) (parts : List (List Char)) : List Char :=
  opening :: [','].intercalate parts ++ [closing]

/-- A member of an object. -/
def memberText (key : String) (value : List Char) : List Char :=
  quote key ++ ':' :: value

/-- An object of some members. -/
def objectText (members : List (String × List Char)) : List Char :=
  bracketed '\x7b' '\x7d' (members.map fun (key, value) => memberText key value)

/-- The compact text of a document that nests at most `depth` deep. -/
def render? : (depth : Nat) → Value → Option (List Char)
  | _, .null => some "null".toList
  | _, .bool true => some "true".toList
  | _, .bool false => some "false".toList
  | _, .number literal => literal.text?
  | _, .string text => text.map quote
  | 0, .array _ => none
  | depth + 1, .array items => do
      let parts ← items.mapM (render? depth)
      pure (bracketed '[' ']' parts)
  | 0, .object _ => none
  | depth + 1, .object members => do
      let entries ← members.mapM fun (key, value) => do
        pure ((← key), (← render? depth value))
      let sorted := (Std.ExtTreeMap.ofList entries).toList
      pure (objectText sorted)

end ChangeGate.Json
