import ChangeGate.Text.Alphanumeric
import ChangeGate.Text.Numeral
import ChangeGate.Text.Pattern.Parser

/-!
# Directives of a filter

A directive says how much is shown of what fits it. It may name a target, a span, and fields with
patterns for their values: target, span in brackets with fields in braces, equals sign, level.
-/

namespace ChangeGate.CommandLine

open ChangeGate.Text

/-- How much is shown, from nothing to everything. -/
inductive Level where
  | off
  | error
  | warn
  | info
  | debug
  | trace
  deriving DecidableEq, Repr, Inhabited

namespace Level

/-- The levels in rising order. -/
def all : List Level := [off, error, warn, info, debug, trace]

/-- The name of a level. -/
def name : Level → String
  | off => "off"
  | error => "error"
  | warn => "warn"
  | info => "info"
  | debug => "debug"
  | trace => "trace"

/-- The place of a level among all of them. -/
def rank (level : Level) : Nat :=
  all.idxOf level

/-- Read a level: its place as a numeral, or its name in any case. -/
def parse? (text : List Char) : Option Level :=
  let byPlace := match readUInt64 text with
    | .ok place => all[place.toNat]?
    | .error _ => none
  byPlace.or (all.find? fun level => level.name.toList = text.map Char.toLower)

/-- The level that shows the most among some. -/
def highest (levels : List Level) : Level :=
  levels.foldl (fun most level => if most.rank < level.rank then level else most) off

end Level

/-- What the value of a field is tested for. -/
inductive ValueTest where
  /-- It must be a truth value or a number, which the text of a value never is. -/
  | literal (text : String)
  /-- It must fit a pattern, which is kept as it was given and as it was read. -/
  | pattern (text : String) (pattern : Pattern)
  deriving DecidableEq, Repr, Inhabited

namespace ValueTest

/-- A text without the sign it starts with. -/
def withoutSign (text : List Char) : List Char :=
  if text.head? = some '+' || text.head? = some '-' then text.drop 1 else text

/-- An exponent with its letter. -/
def isExponent : List Char → Bool
  | letter :: rest =>
      let digits := withoutSign rest
      letter.toLower = 'e' && !digits.isEmpty && digits.all Char.isDigit
  | [] => false

/-- A number without its sign: digits, with a point before, among or behind them, and perhaps an
exponent; or a name for what digits cannot write. -/
def isMagnitude (text : List Char) : Bool :=
  let whole := text.takeWhile Char.isDigit
  let (part, rest) := match text.drop whole.length with
    | '.' :: behind => (behind.takeWhile Char.isDigit, behind.dropWhile Char.isDigit)
    | behind => ([], behind)
  text.map Char.toLower ∈ ["inf", "infinity", "nan"].map String.toList
    || !(whole ++ part).isEmpty && (rest.isEmpty || isExponent rest)

/-- A truth value or a number. -/
def isLiteral (text : List Char) : Bool :=
  text ∈ ["true", "false"].map String.toList || isMagnitude (withoutSign text)

/-- Read a test. -/
def parse? (text : List Char) : Option ValueTest :=
  if isLiteral text then some (.literal (String.ofList text))
  else (Pattern.parse? text).map (.pattern (String.ofList text) ·)

/-- What was given. -/
def text : ValueTest → String
  | literal text => text
  | pattern text _ => text

/-- A text passes the test. -/
def passes (value : List Char) : ValueTest → Bool
  | literal _ => false
  | pattern _ expected => expected.fits value

end ValueTest

/-- A field that must be there, and a test of its value. -/
structure FieldTest where
  name : String
  value : Option ValueTest := none
  deriving DecidableEq, Repr, Inhabited

/-- Read a test: the name of a field, and behind an equals sign a test of its value up to the next
one. -/
def FieldTest.parse? (text : List Char) : Option FieldTest :=
  match text.splitOn '=' with
  | name :: value :: _ =>
      (ValueTest.parse? value).map fun value => { name := String.ofList name, value := some value }
  | [name] => if name.isEmpty then none else some { name := String.ofList name }
  | [] => none

/-- A directive of a filter. -/
structure Directive where
  target : Option String := none
  span : Option String := none
  fields : List FieldTest := []
  /-- Everything is shown of what fits, unless a level is named. -/
  level : Level := .trace
  deriving DecidableEq, Repr, Inhabited

namespace Directive

/-- What is read at a place of a directive, with the place where it starts. -/
inductive Stage where
  | beginning
  /-- A target, or the level that is all of the directive. -/
  | name (start : Nat)
  | span (start : Nat)
  | field (start : Nat)
  | behindFields
  | behindSpan
  | level (start : Nat)
  deriving DecidableEq, Repr, Inhabited

/-- A piece of a text between two places. -/
def piece (text : List Char) (start stop : Nat) : List Char :=
  (text.drop start).take (stop - start)

/-- A character that a directive without brackets in front starts with. -/
def startsName (c : Char) : Bool :=
  isAlphanumeric c || c = '-' || c = ':' || c = '_'

/-- Add a test of a field, which must not be empty. -/
def addField? (directive : Directive) (text : List Char) : Option Directive :=
  if text.isEmpty then none
  else (FieldTest.parse? text).map fun test =>
    { directive with fields := directive.fields ++ [test] }

/-- Read the character at a place of a text. -/
def step (text : List Char) (place : Nat) (directive : Directive) (stage : Stage) (c : Char) :
    Option (Directive × Stage) :=
  let found (start : Nat) : List Char := piece text start place
  match stage, c with
  | .beginning, '[' => some (directive, .span (place + 1))
  | .beginning, _ => if startsName c then some (directive, .name place) else none
  | .name start, '=' =>
      some ({ directive with target := some (String.ofList (found start)) }, .level (place + 1))
  | .name start, '[' =>
      some ({ directive with target := some (String.ofList (found start)) }, .span (place + 1))
  | .name _, _ => some (directive, stage)
  | .span start, ']' =>
      some ({ directive with span := some (String.ofList (found start)) }, .behindSpan)
  | .span start, '\x7b' =>
      let span := if (found start).isEmpty then none else some (String.ofList (found start))
      some ({ directive with span }, .field (place + 1))
  | .span _, _ => some (directive, stage)
  | .field start, '\x7d' => (directive.addField? (found start)).map (·, .behindFields)
  | .field _, _ => some (directive, stage)
  | .behindFields, ']' => some (directive, .behindSpan)
  | .behindFields, _ => none
  | .behindSpan, '=' => some (directive, .level (place + 1))
  | .behindSpan, _ => none
  | .level _, _ => some (directive, stage)

/-- What a directive is when a text ends. -/
def finish? (text : List Char) (directive : Directive) : Stage → Option Directive
  | .name start =>
      let name := text.drop start
      match Level.parse? name with
      | some level => some { directive with level }
      | none => some { directive with target := some (String.ofList name) }
  | .level start =>
      let level := text.drop start
      if level.isEmpty then some directive
      else (Level.parse? level).map fun level => { directive with level }
  | .behindSpan => some directive
  | _ => none

/-- Read the characters from a place on. -/
def readFrom (text : List Char) (place : Nat) (directive : Directive) (stage : Stage) :
    List Char → Option Directive
  | [] => finish? text directive stage
  | c :: rest => do
      let (directive, stage) ← step text place directive stage c
      readFrom text (place + 1) directive stage rest

/-- Read a directive. The places are those of the text without the blanks around it, and the
pieces are cut at these places out of the text with them. -/
def parse? (text : List Char) : Option Directive :=
  readFrom text 0 {} .beginning (trim text)

/-- The directive tests the value of a field. -/
def testsValue (directive : Directive) : Bool :=
  directive.fields.any (·.value.isSome)

/-- The directive is about events by themselves, whatever span they are in. -/
def isStatic (directive : Directive) : Bool :=
  directive.span.isNone && !directive.testsValue

/-- The directive is about the events in a span. -/
def isDynamic (directive : Directive) : Bool :=
  directive.span.isSome || !directive.fields.isEmpty

/-- The names of the fields. -/
def fieldNames (directive : Directive) : List String :=
  directive.fields.map (·.name)

/-- Two directives about the same, of which the later one counts. -/
def isAboutSame (directive other : Directive) : Bool :=
  directive.target = other.target && directive.span = other.span
    && directive.fields.map (fun test => (test.name, test.value.map (·.text)))
      = other.fields.map (fun test => (test.name, test.value.map (·.text)))

/-- The directives of which none is replaced by a later one. -/
def inForce : List Directive → List Directive
  | [] => []
  | directive :: later =>
      if later.any (isAboutSame directive) then inForce later
      else directive :: inForce later

/-- A directive describes more closely than another what both fit: by its target, by the number of
its fields, or else it stands later in the order of texts. -/
def isCloser (directive other : Directive) : Bool :=
  let length (directive : Directive) : Nat :=
    (directive.target.map fun target => target.utf8ByteSize + 1).getD 0
  let order := (compare (length directive) (length other))
    |>.then (compare directive.fields.length other.fields.length)
    |>.then (compare (directive.target.getD "") (other.target.getD ""))
    |>.then (compare directive.fieldNames other.fieldNames)
  order = .gt

end Directive

end ChangeGate.CommandLine
