import ChangeGate.Text.AsciiSet

/-!
# Patterns

A pattern describes texts of ASCII characters. Where it leaves a choice, one way is tried before
the other. A pattern is looked for from left to right, and the first way in which it can be found
is the one that counts: the pattern fits a text when that way ends together with the text.
-/

namespace ChangeGate.Text

/-- What can be said of a place between two characters. -/
inductive Boundary where
  | textStart
  | textEnd
  | lineStart
  | lineEnd
  | wordEdge
  | noWordEdge
  | wordStart
  | wordEnd
  deriving DecidableEq, Repr, Inhabited

/-- What is said of a place holds there, between the characters before and after it. -/
def Boundary.holds (before after : Option Char) : Boundary → Bool
  | textStart => before.isNone
  | textEnd => after.isNone
  | lineStart => before.all (· = '\n')
  | lineEnd => after.all (· = '\n')
  | wordEdge => before.any isWord != after.any isWord
  | noWordEdge => before.any isWord == after.any isWord
  | wordStart => !before.any isWord && after.any isWord
  | wordEnd => before.any isWord && !after.any isWord
where
  /-- A character is part of a word. -/
  isWord (c : Char) : Bool := AsciiSet.wordCharacters.contains c

/-- A pattern. -/
inductive Pattern where
  | empty
  | char (chars : AsciiSet)
  | boundary (kind : Boundary)
  | seq (first second : Pattern)
  /-- One of two patterns; the first is tried first. -/
  | either (first second : Pattern)
  /-- Any number of times; an eager repetition tries to go on first. -/
  | repeated (body : Pattern) (eager : Bool)
  deriving DecidableEq, Repr, Inhabited

namespace Pattern

/-- One pattern after another. -/
def followedBy : Pattern → Pattern → Pattern
  | empty, second => second
  | first, second => seq first second

/-- What a pattern can do at a place of a text: come to an end, or take a character and go on as
another pattern. -/
abbrev Move := Option (AsciiSet × Pattern)

/-- Of some moves that are tried in order, a second one that comes to an end adds nothing. -/
def firstEnd : List Move → List Move
  | [] => []
  | none :: rest => none :: rest.filter (·.isSome)
  | some move :: rest => some move :: firstEnd rest

/-- The moves of a pattern at a place of a text, in the order in which they are tried. A repetition
whose body comes to an end without taking a character ends there too. -/
def moves (before after : Option Char) : Pattern → List Move
  | empty => [none]
  | char chars => [some (chars, empty)]
  | boundary kind => if kind.holds before after then [none] else []
  | seq first second =>
      firstEnd <| (first.moves before after).flatMap fun
        | none => second.moves before after
        | some (chars, rest) => [some (chars, rest.followedBy second)]
  | either first second => firstEnd (first.moves before after ++ second.moves before after)
  | repeated body eager =>
      let again := (body.moves before after).map fun move =>
        move.map fun (chars, rest) => (chars, rest.followedBy (repeated body eager))
      firstEnd (if eager then again ++ [none] else none :: again)

/-- Match a text with patterns that are tried one after another. Once one of them comes to an end,
those behind it do not count. -/
def matchesFrom (before : Option Char) (tried : List Pattern) : List Char → Bool
  | [] => tried.any fun pattern => (pattern.moves before none).contains none
  | c :: rest =>
      let untilEnd := (tried.flatMap (moves before (some c))).takeWhile (·.isSome)
      let taken := untilEnd.filterMap fun move =>
        move.bind fun (chars, rest) => if chars.contains c then some rest else none
      matchesFrom (some c) taken.eraseDups rest

/-- The pattern at the first place where it can be found. -/
def anywhere (pattern : Pattern) : Pattern :=
  seq (repeated (char AsciiSet.empty.complement) false) pattern

/-- The pattern fits a text. -/
def fits (pattern : Pattern) (text : List Char) : Bool :=
  matchesFrom none [pattern.anywhere] text

end Pattern

end ChangeGate.Text
