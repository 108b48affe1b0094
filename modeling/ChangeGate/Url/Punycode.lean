/-!
# Punycode

A label of a domain as ASCII text. The ASCII characters stand first; after a hyphen, each
further character is told by how far the walk over all places and codes goes on until it is
put in, as a number in digits whose base adapts to the numbers before.
-/

namespace ChangeGate.Url.Punycode

/-- The digit of a value below 36: a letter, or a decimal digit after the letters. -/
def digit (value : Nat) : Char :=
  if value < 26 then Char.ofNat ('a'.toNat + value) else Char.ofNat ('0'.toNat + (value - 26))

/-- The value of a digit. -/
def value? (c : Char) : Option Nat :=
  if 'a' ≤ c ∧ c ≤ 'z' then some (c.toNat - 'a'.toNat)
  else if c.isDigit then some (c.toNat - '0'.toNat + 26)
  else none

/-- The least value that does not end a number at a place, which is counted in steps of 36. -/
def threshold (bias place : Nat) : Nat :=
  if place ≤ bias then 1 else if bias + 26 ≤ place then 26 else place - bias

theorem threshold_pos (bias place : Nat) : 1 ≤ threshold bias place := by
  unfold threshold
  split
  · exact Nat.le_refl 1
  · split <;> omega

theorem threshold_le (bias place : Nat) : threshold bias place ≤ 26 := by
  unfold threshold
  split
  · omega
  · split <;> omega

/-- Divide a number until it is small, counting the divisions in steps of 36. -/
def scaleDown (number place : Nat) : Nat × Nat :=
  if 455 < number then scaleDown (number / 35) (place + 36) else (number, place)
termination_by number
decreasing_by omega

/-- The bias after a number, when `count` characters are there. -/
def adapt (first : Bool) (number count : Nat) : Nat :=
  let number := if first then number / 700 else number / 2
  let (number, place) := scaleDown (number + number / count) 0
  place + 36 * number / (number + 38)

/-- Write a number from a place on. -/
def writeNumber (bias place number : Nat) : List Char :=
  let least := threshold bias place
  if number < least then [digit number]
  else
    digit (least + (number - least) % (36 - least))
      :: writeNumber bias (place + 36) ((number - least) / (36 - least))
termination_by number
decreasing_by
  have positive := threshold_pos bias place
  have := Nat.div_le_self (number - threshold bias place) (36 - threshold bias place)
  omega

/-- How far encoding has come: the text written, the steps since the last number, the bias, and
how many characters are there. -/
structure Progress where
  written : List Char := []
  steps : Nat := 0
  bias : Nat := 72
  present : Nat
  deriving Repr

/-- Pass a character of the label in the walk over the places of the code `code`. -/
def pass (basic code : Nat) (progress : Progress) (c : Char) : Progress :=
  let { written, steps, bias, present } := progress
  if c.toNat < code then { progress with steps := steps + 1 }
  else if c.toNat = code then
    { written := written ++ writeNumber bias 36 steps
      steps := 0
      bias := adapt (present = basic) steps (present + 1)
      present := present + 1 }
  else progress

/-- Walk over the places of some rising codes, the first of which is not below `next`. -/
def walk (label : List Char) (basic : Nat) : (next : Nat) → List Nat → Progress → Progress
  | _, [], progress => progress
  | next, code :: codes, progress =>
      let steps := progress.steps + (code - next) * (progress.present + 1)
      let progress := label.foldl (pass basic code) { progress with steps }
      walk label basic (code + 1) codes { progress with steps := progress.steps + 1 }

/-- Write a label as ASCII text. -/
def encode (label : List Char) : List Char :=
  let basic := label.filter (·.toNat < 0x80)
  let codes := (label.map Char.toNat).filter (0x80 ≤ ·)
  let rising := (codes.mergeSort fun left right => left ≤ right).eraseDups
  let start : Progress := { present := basic.length }
  let rest := (walk label basic.length 0x80 rising start).written
  if basic.isEmpty then rest else basic ++ '-' :: rest

/-- Read a number from a place on, onto what was read so far; the rest is shorter. -/
def readNumber (bias place weight number : Nat) :
    (text : List Char) → Option (Nat × { rest : List Char // rest.length < text.length })
  | [] => none
  | c :: rest =>
      match value? c with
      | none => none
      | some value =>
          let least := threshold bias place
          let number := number + value * weight
          if value < least then some (number, ⟨rest, Nat.lt_succ_self _⟩)
          else
            (readNumber bias (place + 36) (weight * (36 - least)) number rest).map
              fun (number, ⟨after, shorter⟩) => (number, ⟨after, Nat.lt_succ_of_lt shorter⟩)

/-- Put the characters that a text tells into a label. -/
def insertAll (bias code place : Nat) (label : List Char) (text : List Char) :
    Option (List Char) :=
  if text.isEmpty then some label
  else
    match readNumber bias 36 1 place text with
    | none => none
    | some (number, ⟨rest, _⟩) =>
        let count := label.length + 1
        let code := code + number / count
        if code.isValidChar then
          insertAll (adapt (place = 0) (number - place) count) code (number % count + 1)
            (label.insertIdx (number % count) (Char.ofNat code)) rest
        else none
termination_by text.length

/-- Read a label from ASCII text. -/
def decode? (text : List Char) : Option (List Char) :=
  let rest := (text.reverse.takeWhile (· ≠ '-')).reverse
  let basic := text.take (text.length - rest.length - 1)
  insertAll 72 0x80 0 basic rest

end ChangeGate.Url.Punycode
