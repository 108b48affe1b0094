import ChangeGate.Text.Alphanumeric
import ChangeGate.Text.Pattern.Class

/-!
# Reading patterns

A pattern is read part by part, with a pile of the groups that are open. Groups, classes and
repetitions nest only so deep.
-/

namespace ChangeGate.Text.Pattern

/-- How deep the parts of a pattern may nest. -/
def nestingLimit : Nat := 250

/-- An item of a group. What sets flags is an item too, which cannot be repeated. -/
structure Item extends Nested Pattern where
  setsFlags : Bool := false
  deriving Repr, Inhabited

/-- A group, as far as it was read. -/
structure Group where
  /-- What stands before the last bar, the last first. -/
  before : List (Nested Pattern) := []
  /-- What stands behind it, the last first. -/
  items : List Item := []
  deriving Repr, Inhabited

namespace Group

/-- The items behind the last bar, one after another. -/
def sequence (group : Group) : Nested Pattern where
  value := group.items.foldl (fun rest item => item.value.followedBy rest) .empty
  depth := depthOfAll (group.items.map (·.depth))

/-- The pattern that was read. -/
def close (group : Group) : Nested Pattern where
  value := (group.before.map (·.value)).foldl (fun rest first => .either first rest)
    group.sequence.value
  depth := depthOfAll ((group.sequence :: group.before).map (·.depth))

/-- Add an item. -/
def add (group : Group) (item : Item) : Group :=
  { group with items := item :: group.items }

/-- Go on behind a bar. -/
def next (group : Group) : Group :=
  { before := group.sequence :: group.before }

/-- Repeat the last item. -/
def repeatLast? (group : Group) (again : Pattern → Pattern) : Option Group :=
  match group.items with
  | [] => none
  | last :: items =>
      if last.setsFlags then none
      else
        let repetition : Item := { value := again last.value, depth := last.depth + 1 }
        some { group with items := repetition :: items }

end Group

/-- A pattern, as far as it was read. -/
structure Draft where
  flags : Flags := {}
  group : Group := {}
  /-- The groups around it, with the flags in force in them. -/
  around : List (Flags × Group) := []
  /-- The open classes, the innermost first. -/
  classes : List ClassDraft := []
  /-- The names of groups. -/
  names : List (List Char) := []
  deriving Repr, Inhabited

namespace Draft

/-- Add an item. -/
def add (draft : Draft) (pattern : Pattern) (depth : Nat) : Draft :=
  { draft with group := draft.group.add { value := pattern, depth } }

/-- Add one of some characters. -/
def addChars (draft : Draft) (chars : AsciiSet) : Draft :=
  draft.add (.char (draft.flags.fold chars)) 0

/-- Add a mark, which speaks of lines or of the text. -/
def addMark (draft : Draft) (ofLine ofText : Boundary) : Draft :=
  draft.add (.boundary (if draft.flags.marksLines then ofLine else ofText)) 0

/-- Open a group with flags of its own. -/
def openGroup (draft : Draft) (flags : Flags) : Draft :=
  { draft with flags, group := {}, around := (draft.flags, draft.group) :: draft.around }

/-- Close a group. -/
def closeGroup? (draft : Draft) : Option Draft :=
  match draft.around with
  | [] => none
  | (flags, outer) :: around =>
      let ⟨pattern, depth⟩ := draft.group.close
      some { draft with flags, group := outer.add { value := pattern, depth := depth + 1 }, around }

/-- Repeat the last item: by a star any number of times, by a plus at least once, by a question
mark at most once. -/
def repeatLast? (draft : Draft) (sign : Char) (eager : Bool) : Option Draft := do
  let eager := eager != draft.flags.swapsEager
  let again (body : Pattern) : Pattern :=
    match sign with
    | '*' => .repeated body eager
    | '+' => .seq body (.repeated body eager)
    | _ => if eager then .either body .empty else .either .empty body
  pure { draft with group := ← draft.group.repeatLast? again }

/-- The characters that a dot stands for. -/
def dot? (flags : Flags) : Option AsciiSet :=
  let ends := if flags.returnsEndLines then AsciiSet.ofText "\n\r" else .single '\n'
  flags.others? (if flags.dotTakesAll then .empty else ends)

/-- Read what stands behind a backslash. -/
def readEscaped (draft : Draft) (text : List Char) : Option (Draft × List Char) := do
  let (escape, rest) ← readEscape draft.flags text
  match escape with
  | .char c => pure (draft.addChars (.single c), rest)
  | .chars chars => pure (draft.addChars chars, rest)
  | .boundary kind => pure (draft.add (.boundary kind) 0, rest)

/-- A name of a group, which no other group has. -/
def isNewName (draft : Draft) (name : List Char) : Bool :=
  (name.head?.any fun c => c = '_' || (isAlphanumeric c && !c.isDigit))
    && name.all (fun c => isAlphanumeric c || c ∈ ['_', '.', '[', ']'])
    && !draft.names.contains name

/-- Open a group behind its name. -/
def readNamed (draft : Draft) (text : List Char) : Option (Draft × List Char) := do
  let name := text.takeWhile (· ≠ '>')
  let rest ← textAfter? ['>'] (text.drop name.length)
  if draft.isNewName name then
    pure ({ draft with names := name :: draft.names }.openGroup draft.flags, rest)
  else none

/-- Read flags, for a group or from here on. -/
def readFlags (draft : Draft) (text : List Char) : Option (Draft × List Char) := do
  let letters := text.takeWhile fun c => c ≠ ')' && c ≠ ':'
  let flags ← draft.flags.turnAll? letters
  match text.drop letters.length with
  | ':' :: rest => pure (draft.openGroup flags, rest)
  | ')' :: rest =>
      if letters.isEmpty then none
      else
        let group := draft.group.add { value := .empty, setsFlags := true }
        pure ({ draft with flags, group }, rest)
  | _ => none

/-- Read what stands behind an opening parenthesis. -/
def readOpening (draft : Draft) (text : List Char) : Option (Draft × List Char) :=
  match draft.flags.skip text with
  | '?' :: 'P' :: '<' :: rest => draft.readNamed rest
  | '?' :: '<' :: rest => draft.readNamed rest
  | '?' :: rest => draft.readFlags rest
  | rest => some (draft.openGroup draft.flags, rest)

/-- Read a sign of repetition, which a question mark makes patient. -/
def readRepeat (draft : Draft) (sign : Char) (text : List Char) : Option (Draft × List Char) :=
  match text with
  | '?' :: rest => (draft.repeatLast? sign false).map (·, rest)
  | _ => (draft.repeatLast? sign true).map (·, text)

/-- Read the next part outside of classes. -/
def readPlain (draft : Draft) (text : List Char) : Option (Draft × List Char) :=
  match draft.flags.skip text with
  | [] => some (draft, [])
  | c :: rest =>
      match c with
      | '(' => draft.readOpening rest
      | ')' => draft.closeGroup?.map (·, rest)
      | '|' => some ({ draft with group := draft.group.next }, rest)
      | '[' =>
          let (classDraft, rest) := openClass draft.flags rest
          some ({ draft with classes := [classDraft] }, rest)
      | '*' => draft.readRepeat c rest
      | '+' => draft.readRepeat c rest
      | '?' => draft.readRepeat c rest
      | '\\' => draft.readEscaped rest
      | '.' => (dot? draft.flags).map fun chars => (draft.addChars chars, rest)
      | '^' => some (draft.addMark .lineStart .textStart, rest)
      | '$' => some (draft.addMark .lineEnd .textEnd, rest)
      | '\x7b' => none
      | _ => some (draft.addChars (.single c), rest)

/-- Read the next part. -/
def readPart (draft : Draft) (text : List Char) : Option (Draft × List Char) :=
  match draft.classes with
  | [] => draft.readPlain text
  | inner :: around => do
      let (step, rest) ← readClassPart draft.flags inner around text
      match step with
      | .inside inner around => pure ({ draft with classes := inner :: around }, rest)
      | .closed ⟨chars, depth⟩ =>
          pure ({ draft with classes := [] }.add (.char chars) depth, rest)

/-- Read a text to its end, at most `bound` parts of it. -/
def readAll : (bound : Nat) → Draft → List Char → Option Draft
  | _, draft, [] => some draft
  | 0, _, _ => none
  | bound + 1, draft, text => do
      let (draft, rest) ← draft.readPart text
      readAll bound draft rest

/-- The pattern that was read, if all groups and classes are closed. -/
def close? (draft : Draft) : Option Pattern :=
  let ⟨pattern, depth⟩ := draft.group.close
  if draft.around.isEmpty && draft.classes.isEmpty && depth ≤ nestingLimit then some pattern
  else none

end Draft

/-- Read a pattern. Every part of it takes a character at least. -/
def parse? (text : List Char) : Option Pattern := do
  (← Draft.readAll text.length {} text).close?

end ChangeGate.Text.Pattern
