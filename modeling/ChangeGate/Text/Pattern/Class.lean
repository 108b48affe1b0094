import ChangeGate.Text.Pattern.Escape
import ChangeGate.Text.Search

/-!
# Classes of characters

Between brackets stand characters, ranges, named classes and classes in brackets of their own. A
doubled sign sets what stands before it against what stands behind it.
-/

namespace ChangeGate.Text.Pattern

/-- Part of a pattern, with how deep other parts nest in it. -/
structure Nested (α : Type) where
  value : α
  depth : Nat := 0
  deriving DecidableEq, Repr, Inhabited

/-- How deep parts nest that stand side by side. Several of them nest in what holds them. -/
def depthOfAll (depths : List Nat) : Nat :=
  match depths with
  | [] => 0
  | [depth] => depth
  | _ => depths.foldl max 0 + 1

/-- What is done with two sets of characters. -/
inductive SetOperation where
  | inter
  | difference
  | symmetricDifference
  deriving DecidableEq, Repr, Inhabited

/-- Do it. -/
def SetOperation.apply (left right : AsciiSet) : SetOperation → AsciiSet
  | inter => left.inter right
  | difference => left.without right
  | symmetricDifference => (left.without right).union (right.without left)

/-- A class between brackets, as far as it was read. -/
structure ClassDraft where
  negated : Bool
  /-- What stands before the last operation. -/
  left : Option (Nested AsciiSet × SetOperation) := none
  /-- What stands behind it, the last first. -/
  items : List (Nested AsciiSet) := []
  /-- Nothing but hyphens was read. -/
  isNew : Bool := true
  deriving DecidableEq, Repr, Inhabited

namespace ClassDraft

/-- Add characters. -/
def add (draft : ClassDraft) (chars : Nested AsciiSet) : ClassDraft :=
  { draft with items := chars :: draft.items, isNew := false }

/-- What was read so far, with the operations carried out. -/
def chars (flags : Flags) (draft : ClassDraft) : Nested AsciiSet :=
  let behind : Nested AsciiSet :=
    { value := draft.items.foldl (fun chars item => chars.union item.value) .empty
      depth := depthOfAll (draft.items.map (·.depth)) }
  match draft.left with
  | none => behind
  | some (before, operation) =>
      { value := operation.apply (flags.fold before.value) (flags.fold behind.value)
        depth := max before.depth behind.depth + 1 }

/-- Read an operation. -/
def operate (flags : Flags) (draft : ClassDraft) (operation : SetOperation) : ClassDraft :=
  { draft with left := some (draft.chars flags, operation), items := [], isNew := false }

/-- The class that was read. -/
def close? (flags : Flags) (draft : ClassDraft) : Option (Nested AsciiSet) := do
  let ⟨chars, depth⟩ := draft.chars flags
  let chars := flags.fold chars
  pure ⟨← if draft.negated then flags.others? chars else some chars, depth + 1⟩

end ClassDraft

/-- Start a class behind its bracket. -/
def openClass (flags : Flags) (text : List Char) : ClassDraft × List Char :=
  match flags.skip text with
  | '^' :: rest => ({ negated := true }, rest)
  | text => ({ negated := false }, text)

/-- A class by its name. -/
def namedClass? (name : String) : Option AsciiSet :=
  match name with
  | "alnum" => some (AsciiSet.letters.union AsciiSet.digits)
  | "alpha" => some AsciiSet.letters
  | "ascii" => some AsciiSet.empty.complement
  | "blank" => some (.ofText "\t ")
  | "cntrl" => some AsciiSet.controls
  | "digit" => some AsciiSet.digits
  | "graph" => some (.range '!' '~')
  | "lower" => some AsciiSet.lowerLetters
  | "print" => some (.range ' ' '~')
  | "punct" => some ((AsciiSet.range '!' '~').without (AsciiSet.letters.union AsciiSet.digits))
  | "space" => some AsciiSet.blanks
  | "upper" => some AsciiSet.upperLetters
  | "word" => some AsciiSet.wordCharacters
  | "xdigit" => some (.ofText "0123456789abcdefABCDEF")
  | _ => none

/-- Read the name of a class behind its bracket: between colons, and behind a caret for all other
characters. It says whether a class of that name was found, which may still be unknown. -/
def readNamedClass (flags : Flags) (text : List Char) : Option (Option AsciiSet × List Char) := do
  let text ← textAfter? [':'] text
  let (negated, text) := match text with
    | '^' :: rest => (true, rest)
    | text => (false, text)
  let name := text.takeWhile (· ≠ ':')
  let rest ← textAfter? [':', ']'] (text.drop name.length)
  let chars := flags.fold (← namedClass? (String.ofList name))
  pure (if negated then flags.others? chars else some chars, rest)

/-- Read a character or what a backslash stands for. -/
def readMember (flags : Flags) : List Char → Option (Escape × List Char)
  | '\\' :: rest => readEscape flags rest
  | c :: rest => some (.char c, rest)
  | [] => none

/-- The characters from a first one to a last one. -/
def rangeOf? (flags : Flags) (first last : Escape) : Option AsciiSet :=
  match first, last with
  | .char first, .char last =>
      if first ≤ last && (flags.knowsAll || last.toNat < 0x80) then some (.range first last)
      else none
  | _, _ => none

/-- The characters of a member that is no end of a range. -/
def charsOf? (flags : Flags) : Escape → Option AsciiSet
  | .char c => rangeOf? flags (.char c) (.char c)
  | .chars chars => some chars
  | .boundary _ => none

/-- Read a member, or a range that starts with it. A hyphen before a bracket or another hyphen is
not that of a range. -/
def readMembers (flags : Flags) (text : List Char) : Option (AsciiSet × List Char) := do
  let (first, rest) ← readMember flags text
  let rest := flags.skip rest
  match rest with
  | '-' :: behind =>
      let behind := flags.skip behind
      if behind.head? = some ']' || behind.head? = some '-' then
        pure (← charsOf? flags first, rest)
      else
        let (last, after) ← readMember flags behind
        pure (← rangeOf? flags first last, after)
  | _ => pure (← charsOf? flags first, rest)

/-- What reading part of a class leads to. -/
inductive ClassStep where
  /-- Some classes are open, the innermost first. -/
  | inside (draft : ClassDraft) (around : List ClassDraft)
  | closed (chars : Nested AsciiSet)
  deriving DecidableEq, Repr

/-- Read the next part of a class and the classes around it. -/
def readClassPart (flags : Flags) (draft : ClassDraft) (around : List ClassDraft)
    (text : List Char) : Option (ClassStep × List Char) := do
  let inside (draft : ClassDraft) (rest : List Char) : Option (ClassStep × List Char) :=
    some (.inside draft around, rest)
  match flags.skip text with
  | [] => none
  | '[' :: rest =>
      match readNamedClass flags rest with
      | some (chars, rest) => inside (draft.add ⟨← chars, 0⟩) rest
      | none =>
          let (inner, rest) := openClass flags rest
          pure (.inside inner ({ draft with isNew := false } :: around), rest)
  | ']' :: rest =>
      if draft.isNew && draft.items.isEmpty then inside (draft.add ⟨.single ']', 0⟩) rest
      else
        let chars ← draft.close? flags
        match around with
        | [] => pure (.closed chars, rest)
        | outer :: around => pure (.inside (outer.add chars) around, rest)
  | '&' :: '&' :: rest => inside (draft.operate flags .inter) rest
  | '~' :: '~' :: rest => inside (draft.operate flags .symmetricDifference) rest
  | '-' :: rest =>
      if draft.isNew then inside { draft.add ⟨.single '-', 0⟩ with isNew := true } rest
      else
        match rest with
        | '-' :: rest => inside (draft.operate flags .difference) rest
        | _ => do
            let (chars, rest) ← readMembers flags ('-' :: rest)
            inside (draft.add ⟨chars, 0⟩) rest
  | text => do
      let (chars, rest) ← readMembers flags text
      inside (draft.add ⟨chars, 0⟩) rest

end ChangeGate.Text.Pattern
