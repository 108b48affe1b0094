import ChangeGate.Json.Printer

/-!
# Documents for people

A document over several lines: each item and each member on a line of its own, two spaces deeper
than what holds it. Members stand in the order of the document, and what has no text is null.
-/

namespace ChangeGate.Json

/-- The start of a line at a depth. -/
def lineStart (depth : Nat) : List Char :=
  '\n' :: List.replicate (2 * depth) ' '

/-- Parts on lines of their own between brackets; without parts the brackets alone. -/
def spread (opening closing : Char) (depth : Nat) (parts : List (List Char)) : List Char :=
  if parts.isEmpty then [opening, closing]
  else
    let lines := parts.map (lineStart (depth + 1) ++ ·)
    opening :: [','].intercalate lines ++ lineStart depth ++ [closing]

mutual

/-- The text of a document that stands at a depth. -/
def layout (depth : Nat) : Value → List Char
  | .null => "null".toList
  | .bool true => "true".toList
  | .bool false => "false".toList
  | .number literal => literal.text?.getD "null".toList
  | .string text => (text.map quote).getD "null".toList
  | .array items => spread '[' ']' depth (layoutItems (depth + 1) items)
  | .object members => spread '\x7b' '\x7d' depth (layoutMembers (depth + 1) members)

/-- The texts of the items of an array. -/
def layoutItems (depth : Nat) : List Value → List (List Char)
  | [] => []
  | item :: rest => layout depth item :: layoutItems depth rest

/-- The texts of the members of an object. -/
def layoutMembers (depth : Nat) : List (Option String × Value) → List (List Char)
  | [] => []
  | member :: rest => layoutMember depth member :: layoutMembers depth rest

/-- The text of a member of an object. -/
def layoutMember (depth : Nat) : Option String × Value → List Char
  | (key, value) => quote (key.getD "") ++ [':', ' '] ++ layout depth value

end

end ChangeGate.Json
