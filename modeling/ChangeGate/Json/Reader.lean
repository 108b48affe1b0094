import ChangeGate.Json.Value
import ChangeGate.Text.Hex
import ChangeGate.Text.Search

/-!
# Reading documents

A text is read token by token, and each token moves a state that remembers the arrays and
objects that are still open. Nothing limits how deep they nest.
-/

namespace ChangeGate.Json

open ChangeGate.Text

/-! ## Tokens -/

/-- The smallest pieces of a document. -/
inductive Token where
  | openArray
  | closeArray
  | openObject
  | closeObject
  | comma
  | colon
  /-- A value that is neither an array nor an object. -/
  | scalar (value : Value)
  deriving Repr, Inhabited

/-- White space between tokens. -/
def isSpace (c : Char) : Bool :=
  c = ' ' || c = '\n' || c = '\t' || c = '\r'

/-- A piece of a string: a character, or a code written in hexadecimal. -/
inductive Piece where
  | char (c : Char)
  | code (value : Nat)
  deriving DecidableEq, Repr, Inhabited

/-- The character that a letter stands for after a backslash. -/
def escapedChar? : Char → Option Char
  | '"' => some '"'
  | '\\' => some '\\'
  | '/' => some '/'
  | 'b' => some '\x08'
  | 'f' => some '\x0c'
  | 'n' => some '\n'
  | 'r' => some '\r'
  | 't' => some '\t'
  | _ => none

/-- The pieces of a string up to its closing quote, and what follows it. -/
def readPieces : List Char → Option (List Piece × List Char)
  | [] => none
  | '"' :: rest => some ([], rest)
  | '\\' :: 'u' :: a :: b :: c :: d :: rest => do
      let code ← hexNumber? [a, b, c, d]
      let (pieces, after) ← readPieces rest
      pure (.code code :: pieces, after)
  | '\\' :: letter :: rest => do
      let c ← escapedChar? letter
      let (pieces, after) ← readPieces rest
      pure (.char c :: pieces, after)
  | c :: rest =>
      if c.toNat < 0x20 then none
      else do
        let (pieces, after) ← readPieces rest
        pure (.char c :: pieces, after)

/-- The first half of a surrogate pair. -/
def isHighHalf (code : Nat) : Bool :=
  0xD800 ≤ code && code < 0xDC00

/-- The second half of a surrogate pair. -/
def isLowHalf (code : Nat) : Bool :=
  0xDC00 ≤ code && code < 0xE000

/-- The text of some pieces; none when half of a surrogate pair stands alone. -/
def joinPieces : List Piece → Option (List Char)
  | [] => some []
  | .char c :: rest => (joinPieces rest).map (c :: ·)
  | .code high :: .code low :: rest =>
      if isHighHalf high && isLowHalf low then
        (joinPieces rest).map
          (Char.ofNat (0x10000 + (high - 0xD800) * 0x400 + (low - 0xDC00)) :: ·)
      else if isHighHalf high || isLowHalf high then none
      else (joinPieces (.code low :: rest)).map (Char.ofNat high :: ·)
  | .code code :: rest =>
      if isHighHalf code || isLowHalf code then none
      else (joinPieces rest).map (Char.ofNat code :: ·)

/-- The digits a text starts with, of which there must be one, and what follows them. -/
def readDigitRun (text : List Char) : Option (List Char × List Char) :=
  match text.takeWhile Char.isDigit with
  | [] => none
  | digits => some (digits, text.dropWhile Char.isDigit)

/-- The digits before the point. A zero stands alone. -/
def readWhole (text : List Char) : Option (List Char × List Char) :=
  match readDigitRun text with
  | some ('0' :: _ :: _, _) => none
  | other => other

/-- The digits after a point, if there is a point. -/
def readFraction : List Char → Option (Option (List Char) × List Char)
  | '.' :: rest => do
      let (digits, after) ← readDigitRun rest
      pure (some digits, after)
  | text => some (none, text)

/-- Whether an exponent has a minus sign, and what follows its sign. -/
def exponentSign : List Char → Bool × List Char
  | '-' :: rest => (true, rest)
  | '+' :: rest => (false, rest)
  | text => (false, text)

/-- The sign and digits of an exponent after its letter. -/
def readExponentDigits (text : List Char) : Option (Option (Bool × List Char) × List Char) := do
  let (negative, unsigned) := exponentSign text
  let (digits, after) ← readDigitRun unsigned
  pure (some (negative, digits), after)

/-- The exponent, if there is one. -/
def readExponent : List Char → Option (Option (Bool × List Char) × List Char)
  | 'e' :: rest => readExponentDigits rest
  | 'E' :: rest => readExponentDigits rest
  | text => some (none, text)

/-- A number without its sign, and what follows it. -/
def readUnsigned (negative : Bool) (text : List Char) : Option (NumberLiteral × List Char) := do
  let (whole, afterWhole) ← readWhole text
  let (fraction, afterFraction) ← readFraction afterWhole
  let (exponent, after) ← readExponent afterFraction
  pure (⟨negative, whole, fraction, exponent⟩, after)

/-- The scalar that a word stands for, and what follows the word. -/
def readWord (word : String) (value : Value) (text : List Char) : Option (Token × List Char) :=
  (textAfter? word.toList text).map fun after => (.scalar value, after)

/-- The token at the start of the text `first :: rest`, and what follows it. -/
def readToken (first : Char) (rest : List Char) : Option (Token × List Char) :=
  match first with
  | '[' => some (.openArray, rest)
  | ']' => some (.closeArray, rest)
  | '\x7b' => some (.openObject, rest)
  | '\x7d' => some (.closeObject, rest)
  | ',' => some (.comma, rest)
  | ':' => some (.colon, rest)
  | '"' => do
      let (pieces, after) ← readPieces rest
      pure (.scalar (.string ((joinPieces pieces).map String.ofList)), after)
  | 'n' => readWord "ull" .null rest
  | 't' => readWord "rue" (.bool true) rest
  | 'f' => readWord "alse" (.bool false) rest
  | '-' => do
      let (literal, after) ← readUnsigned true rest
      pure (.scalar (.number literal), after)
  | _ => do
      let (literal, after) ← readUnsigned false (first :: rest)
      pure (.scalar (.number literal), after)

/-! ## Structure -/

/-- An array or object that is still open, with what it holds so far, the last first. -/
inductive Frame where
  | array (items : List Value)
  /-- An object, and the key whose value is read. -/
  | object (members : List (Option String × Value)) (key : Option String)
  deriving Repr, Inhabited

/-- What must come next, inside some open frames, the innermost first. -/
inductive State where
  /-- A value. -/
  | value (frames : List Frame)
  /-- A value or the end of an array that is still empty. -/
  | firstItem (frames : List Frame)
  /-- A key of an object, or its end when `mayClose`. -/
  | key (members : List (Option String × Value)) (mayClose : Bool) (frames : List Frame)
  /-- The colon after a key. -/
  | colon (members : List (Option String × Value)) (key : Option String) (frames : List Frame)
  /-- A comma, or the end of an array. -/
  | nextItem (items : List Value) (frames : List Frame)
  /-- A comma, or the end of an object. -/
  | nextMember (members : List (Option String × Value)) (frames : List Frame)
  /-- Nothing. -/
  | finished (value : Value)
  deriving Repr, Inhabited

namespace State

/-- The state after a complete value. -/
def complete (read : Value) : List Frame → State
  | [] => .finished read
  | .array items :: frames => .nextItem (read :: items) frames
  | .object members name :: frames => .nextMember ((name, read) :: members) frames

/-- The state after the start of a value. -/
def startValue (frames : List Frame) : Token → Option State
  | .openArray => some (.firstItem frames)
  | .openObject => some (.key [] true frames)
  | .scalar read => some (complete read frames)
  | _ => none

/-- The state after a token; none when the token may not stand here. -/
def advance : State → Token → Option State
  | .value frames, token => startValue frames token
  | .firstItem frames, .closeArray => some (complete (.array []) frames)
  | .firstItem frames, token => startValue (.array [] :: frames) token
  | .key members _ frames, .scalar (.string name) => some (.colon members name frames)
  | .key members true frames, .closeObject => some (complete (.object members.reverse) frames)
  | .colon members name frames, .colon => some (.value (.object members name :: frames))
  | .nextItem items frames, .comma => some (.value (.array items :: frames))
  | .nextItem items frames, .closeArray => some (complete (.array items.reverse) frames)
  | .nextMember members frames, .comma => some (.key members false frames)
  | .nextMember members frames, .closeObject => some (complete (.object members.reverse) frames)
  | _, _ => none

/-- The document that was read, when it is complete. -/
def result? : State → Option Value
  | .finished read => some read
  | _ => none

end State

/-! ## Documents -/

private theorem length_dropWhile_le (test : Char → Bool) (text : List Char) :
    (text.dropWhile test).length ≤ text.length :=
  (List.dropWhile_sublist test).length_le

private theorem length_lt_of_readDigitRun {text digits after : List Char}
    (found : readDigitRun text = some (digits, after)) : after.length < text.length := by
  have split :=
    congrArg List.length (List.takeWhile_append_dropWhile (p := Char.isDigit) (l := text))
  simp only [readDigitRun] at found
  cases run : text.takeWhile Char.isDigit with
  | nil => simp [run] at found
  | cons first others =>
    simp only [run, Option.some.injEq, Prod.mk.injEq] at found
    rw [List.length_append, run, found.2] at split
    simp only [List.length_cons] at split
    omega

private theorem length_le_of_readPieces (text : List Char) :
    ∀ {pieces : List Piece} {after : List Char},
      readPieces text = some (pieces, after) → after.length ≤ text.length := by
  induction text using readPieces.induct with
  | case1 => simp [readPieces]
  | case2 rest =>
    intro pieces after found
    simp only [readPieces, Option.some.injEq, Prod.mk.injEq] at found
    simp [← found.2]
  | case3 a b c d rest ih =>
    intro pieces after found
    simp only [readPieces, Option.bind_eq_bind, Option.bind_eq_some_iff, Option.pure_def,
      Option.some.injEq, Prod.mk.injEq, Prod.exists] at found
    obtain ⟨_, _, _, _, inner, _, rfl⟩ := found
    have := ih inner
    simp only [List.length_cons]
    omega
  | case4 letter rest notCode ih =>
    intro pieces after found
    rw [readPieces] at found
    · simp only [Option.bind_eq_bind, Option.bind_eq_some_iff, Option.pure_def,
        Option.some.injEq, Prod.mk.injEq, Prod.exists] at found
      obtain ⟨_, _, _, _, inner, _, rfl⟩ := found
      have := ih inner
      simp only [List.length_cons]
      omega
    · exact notCode
  | case5 c rest notQuote notCode notEscape control =>
    intro pieces after found
    rw [readPieces] at found
    · simp [control] at found
    all_goals assumption
  | case6 c rest notQuote notCode notEscape shown ih =>
    intro pieces after found
    rw [readPieces] at found
    · simp only [shown, if_false, Option.bind_eq_bind, Option.bind_eq_some_iff, Option.pure_def,
        Option.some.injEq, Prod.mk.injEq, Prod.exists] at found
      obtain ⟨_, _, inner, _, rfl⟩ := found
      have := ih inner
      simp only [List.length_cons]
      omega
    all_goals assumption

private theorem length_le_of_readFraction {text after : List Char} {digits : Option (List Char)}
    (found : readFraction text = some (digits, after)) : after.length ≤ text.length := by
  unfold readFraction at found
  split at found
  · simp only [Option.bind_eq_bind, Option.bind_eq_some_iff, Option.pure_def, Option.some.injEq,
      Prod.mk.injEq, Prod.exists] at found
    obtain ⟨_, _, run, _, rfl⟩ := found
    have := length_lt_of_readDigitRun run
    simp only [List.length_cons]
    omega
  · simp_all

private theorem length_le_of_readExponentDigits {text after : List Char}
    {digits : Option (Bool × List Char)}
    (found : readExponentDigits text = some (digits, after)) : after.length ≤ text.length := by
  simp only [readExponentDigits, Option.bind_eq_bind, Option.bind_eq_some_iff, Option.pure_def,
    Option.some.injEq, Prod.mk.injEq, Prod.exists] at found
  obtain ⟨_, _, run, _, rfl⟩ := found
  have unsigned : (exponentSign text).2.length ≤ text.length := by
    unfold exponentSign
    split <;> simp
  have := length_lt_of_readDigitRun run
  omega

private theorem length_le_of_readExponent {text after : List Char}
    {digits : Option (Bool × List Char)}
    (found : readExponent text = some (digits, after)) : after.length ≤ text.length := by
  unfold readExponent at found
  split at found
  · exact Nat.le_succ_of_le (length_le_of_readExponentDigits found)
  · exact Nat.le_succ_of_le (length_le_of_readExponentDigits found)
  · simp_all

private theorem length_lt_of_readUnsigned {negative : Bool} {text after : List Char}
    {literal : NumberLiteral} (found : readUnsigned negative text = some (literal, after)) :
    after.length < text.length := by
  simp only [readUnsigned, Option.bind_eq_bind, Option.bind_eq_some_iff, Option.pure_def,
    Option.some.injEq, Prod.mk.injEq, Prod.exists] at found
  obtain ⟨_, _, whole, _, _, fraction, _, _, exponent, _, rfl⟩ := found
  unfold readWhole at whole
  split at whole
  · cases whole
  have first := length_lt_of_readDigitRun whole
  have second := length_le_of_readFraction fraction
  have third := length_le_of_readExponent exponent
  omega

private theorem length_le_of_readWord {word : String} {read : Value} {text after : List Char}
    {token : Token} (found : readWord word read text = some (token, after)) :
    after.length ≤ text.length := by
  simp only [readWord, Option.map_eq_some_iff, Prod.mk.injEq] at found
  obtain ⟨_, rest, _, rfl⟩ := found
  exact length_le_of_textAfter? rest

/-- A token takes at least one character. -/
theorem length_le_of_readToken {first : Char} {rest after : List Char} {token : Token}
    (found : readToken first rest = some (token, after)) : after.length ≤ rest.length := by
  unfold readToken at found
  split at found
  case h_7 =>
    simp only [Option.bind_eq_bind, Option.bind_eq_some_iff, Option.pure_def, Option.some.injEq,
      Prod.mk.injEq, Prod.exists] at found
    obtain ⟨_, _, pieces, _, rfl⟩ := found
    exact length_le_of_readPieces _ pieces
  case h_8 => exact length_le_of_readWord found
  case h_9 => exact length_le_of_readWord found
  case h_10 => exact length_le_of_readWord found
  case h_11 =>
    simp only [Option.bind_eq_bind, Option.bind_eq_some_iff, Option.pure_def, Option.some.injEq,
      Prod.mk.injEq, Prod.exists] at found
    obtain ⟨_, _, literal, _, rfl⟩ := found
    exact Nat.le_of_lt (length_lt_of_readUnsigned literal)
  case h_12 =>
    simp only [Option.bind_eq_bind, Option.bind_eq_some_iff, Option.pure_def, Option.some.injEq,
      Prod.mk.injEq, Prod.exists] at found
    obtain ⟨_, _, literal, _, rfl⟩ := found
    exact Nat.le_of_lt_succ (length_lt_of_readUnsigned literal)
  all_goals
    simp only [Option.some.injEq, Prod.mk.injEq] at found
    simp [← found.2]

/-- Read on from a state to the end of a text. -/
def readFrom (state : State) (text : List Char) : Option Value :=
  match _start : text.dropWhile isSpace with
  | [] => state.result?
  | first :: rest =>
      match _token : readToken first rest with
      | none => none
      | some (token, after) =>
          match state.advance token with
          | none => none
          | some next => readFrom next after
termination_by text.length
decreasing_by
  have tokenShorter := length_le_of_readToken _token
  have startShorter := length_dropWhile_le isSpace text
  rw [_start, List.length_cons] at startShorter
  omega

/-- Read a document from its text. -/
def parse? (text : String) : Option Value :=
  readFrom (.value []) text.toList

end ChangeGate.Json
