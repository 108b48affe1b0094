import ChangeGate.Text.Hex
import ChangeGate.Text.Search

/-!
# Scanning configuration texts

The small readers that keys, values and statements are made of. A reader takes something from
the start of a text and gives what follows it, or fails. White space is the space and the tab;
lines end with a line feed, which a carriage return may precede.
-/

namespace ChangeGate.Toml

open ChangeGate.Text

/-- Takes something from the start of a text, and gives what follows it. -/
abbrev Reader (α : Type) := List Char → Option (α × List Char)

/-- Read again and again up to a first failure, at most `bound` times. -/
def readUpTo {α : Type} (read : Reader α) : Nat → List Char → List α × List Char
  | 0, text => ([], text)
  | bound + 1, text =>
      match read text with
      | none => ([], text)
      | some (value, rest) =>
          let (values, after) := readUpTo read bound rest
          (value :: values, after)

/-- Read again and again up to a first failure. A reader that always takes something never
reaches the bound. -/
def readMany {α : Type} (read : Reader α) (text : List Char) : List α × List Char :=
  readUpTo read text.length text

/-- White space inside a line. -/
def isSpace (c : Char) : Bool :=
  c = ' ' || c = '\t'

/-- A text without the white space it starts with. -/
def skipSpace (text : List Char) : List Char :=
  text.dropWhile isSpace

/-- What follows the end of a line. -/
def afterNewline? : List Char → Option (List Char)
  | '\n' :: rest => some rest
  | '\r' :: '\n' :: rest => some rest
  | _ => none

/-- A character other than a control character; the tab is allowed. -/
def isPlain (c : Char) : Bool :=
  c = '\t' || (0x20 ≤ c.toNat && c.toNat ≠ 0x7F)

/-- A text without the comment it starts with. -/
def skipComment : List Char → List Char
  | '#' :: rest => rest.dropWhile isPlain
  | text => text

/-- What follows the rest of a line that holds nothing but a comment. -/
def afterLine? (text : List Char) : Option (List Char) :=
  match skipComment (skipSpace text) with
  | [] => some []
  | rest => afterNewline? rest

/-- A line end or a character of white space. -/
def readBlank : Reader Unit := fun text =>
  match afterNewline? text with
  | some rest => some ((), rest)
  | none =>
      match text with
      | c :: rest => if isSpace c then some ((), rest) else none
      | [] => none

/-- A line end, a character of white space, or a comment. -/
def readGap : Reader Unit
  | '#' :: rest => some ((), rest.dropWhile isPlain)
  | text => readBlank text

/-- A text without the empty stretches it starts with, over any number of lines. -/
def skipGaps (text : List Char) : List Char :=
  (readMany readGap text).2

/-! ## Strings -/

/-- The character with the code that the next `count` hexadecimal digits write. -/
def readCode (count : Nat) : Reader Char := fun text =>
  let digits := text.take count
  if digits.length < count then none
  else do
    let code ← hexNumber? digits
    if code.isValidChar then some (Char.ofNat code, text.drop count) else none

/-- The character that an escape stands for, after its backslash. -/
def readEscape : Reader Char
  | 'b' :: rest => some ('\x08', rest)
  | 't' :: rest => some ('\t', rest)
  | 'n' :: rest => some ('\n', rest)
  | 'f' :: rest => some ('\x0c', rest)
  | 'r' :: rest => some ('\r', rest)
  | '"' :: rest => some ('"', rest)
  | '\\' :: rest => some ('\\', rest)
  | 'u' :: rest => readCode 4 rest
  | 'U' :: rest => readCode 8 rest
  | _ => none

/-- A character of a string between double quotes. -/
def readBasicChar : Reader Char
  | '\\' :: rest => readEscape rest
  | c :: rest => if isPlain c && c ≠ '"' then some (c, rest) else none
  | [] => none

/-- A character of a string between single quotes. -/
def readLiteralChar : Reader Char
  | c :: rest => if isPlain c && c ≠ '\'' then some (c, rest) else none
  | [] => none

/-- A string of one line between two equal quotes. -/
def readLineString (quote : Char) (readChar : Reader Char) : Reader String
  | first :: rest =>
      if first = quote then
        let (chars, after) := readMany readChar rest
        match after with
        | last :: after => if last = quote then some (String.ofList chars, after) else none
        | [] => none
      else none
  | [] => none

/-- A line break inside a string. -/
def readBreak : Reader (List Char) := fun text =>
  (afterNewline? text).map fun rest => (['\n'], rest)

/-- A backslash that ends a line, with the white space and the line ends after it; it stands for
nothing. -/
def readContinuation : Reader (List Char)
  | '\\' :: rest =>
      (afterNewline? (skipSpace rest)).map fun after => ([], (readMany readBlank after).2)
  | _ => none

/-- A piece of a string over several lines that is no quote. -/
def readBlockPiece (readChar : Reader Char) : Reader (List Char) := fun text =>
  (readBreak text).or <| (readContinuation text).or <|
    (readChar text).map fun (c, rest) => ([c], rest)

/-- One or two quotes inside a string over several lines, before something else. -/
def readInnerQuotes (quote : Char) : Reader (List Char) := fun text =>
  match text.takeWhile (· = quote), text.dropWhile (· = quote) with
  | [first], c :: rest => some ([first], c :: rest)
  | [first, second], c :: rest => some ([first, second], c :: rest)
  | _, _ => none

/-- What follows three quotes, and how many of the quotes before them belong to the string: at
most two. -/
def readClosing (quote : Char) : Reader (List Char) := fun text =>
  let quotes := (text.takeWhile (· = quote)).length
  if quotes < 3 then none
  else
    let inner := min (quotes - 3) 2
    some (List.replicate inner quote, text.drop (inner + 3))

/-- A string over several lines between three equal quotes. A line break right after the opening
does not count. -/
def readBlockString (quote : Char) (readPiece : Reader (List Char)) :
    Reader String := fun text => do
  let start ← textAfter? [quote, quote, quote] text
  let body := (afterNewline? start).getD start
  let piece : Reader (List Char) := fun text => (readPiece text).or (readInnerQuotes quote text)
  let (pieces, after) := readMany piece body
  let (last, after) ← readClosing quote after
  pure (String.ofList (pieces.flatten ++ last), after)

/-- A piece of a string over several lines between single quotes. -/
def readLiteralPiece : Reader (List Char) := fun text =>
  (readBreak text).or <| (readLiteralChar text).map fun (c, rest) => ([c], rest)

/-- A string of any of the four forms. -/
def readString : Reader String := fun text =>
  match text with
  | '"' :: '"' :: '"' :: _ => readBlockString '"' (readBlockPiece readBasicChar) text
  | '\'' :: '\'' :: '\'' :: _ => readBlockString '\'' readLiteralPiece text
  | '"' :: _ => readLineString '"' readBasicChar text
  | _ => readLineString '\'' readLiteralChar text

/-! ## Keys -/

/-- A character of a key without quotes. -/
def isBareKeyChar (c : Char) : Bool :=
  c.isAlphanum || c = '-' || c = '_'

/-- A key without dots. -/
def readSimpleKey : Reader String := fun text =>
  match text with
  | '"' :: _ => readLineString '"' readBasicChar text
  | '\'' :: _ => readLineString '\'' readLiteralChar text
  | _ =>
      match text.takeWhile isBareKeyChar with
      | [] => none
      | name => some (String.ofList name, text.dropWhile isBareKeyChar)

/-- A key without dots, with white space around it. -/
def readKeyPart : Reader String := fun text => do
  let (name, rest) ← readSimpleKey (skipSpace text)
  pure (name, skipSpace rest)

/-- How deep values may nest, and how many parts a dotted key may have. -/
def nestingLimit : Nat := 79

/-- A dotted key as its first part and the others. -/
def readKey : Reader (String × List String) := fun text => do
  let (first, rest) ← readKeyPart text
  let next : Reader String := fun
    | '.' :: rest => readKeyPart rest
    | _ => none
  let (others, after) := readMany next rest
  if others.length < nestingLimit then some ((first, others), after) else none

end ChangeGate.Toml
