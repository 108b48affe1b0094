/-!
# Searching a text

What follows a word, where a recogniser first succeeds, and replacing a word everywhere.
-/

namespace ChangeGate.Text

/-- The text after `word`, when a text starts with it. -/
def textAfter? (word text : List Char) : Option (List Char) :=
  if word.isPrefixOf text then some (text.drop word.length) else none

/-- The answer of a recogniser at the first position of a text where it has one. -/
def firstMatch? {α : Type} (recognise : List Char → Option α) : List Char → Option α
  | [] => recognise []
  | c :: rest => (recognise (c :: rest)).or (firstMatch? recognise rest)

theorem textAfter?_eq_some_iff {word text rest : List Char} :
    textAfter? word text = some rest ↔ text = word ++ rest := by
  simp only [textAfter?]
  split
  · next isStart =>
    obtain ⟨tail, rfl⟩ := List.isPrefixOf_iff_prefix.mp isStart
    simp [eq_comm]
  · next notStart =>
    refine ⟨nofun, fun equal => absurd ?_ notStart⟩
    exact List.isPrefixOf_iff_prefix.mpr ⟨rest, equal.symm⟩

theorem length_le_of_textAfter? {word text rest : List Char}
    (found : textAfter? word text = some rest) : rest.length ≤ text.length := by
  rw [textAfter?_eq_some_iff.mp found, List.length_append]
  omega

/-- Replace every occurrence of the word `first :: others`, from left to right and without
looking again at what was replaced. -/
def replaceAll (first : Char) (others replacement : List Char) : List Char → List Char
  | [] => []
  | c :: rest =>
      match _found : if c = first then textAfter? others rest else none with
      | some after => replacement ++ replaceAll first others replacement after
      | none => c :: replaceAll first others replacement rest
termination_by text => text.length
decreasing_by
  · have shorter : after.length ≤ rest.length := by
      split at _found
      · exact length_le_of_textAfter? _found
      · cases _found
    simp only [List.length_cons]
    omega
  · simp

end ChangeGate.Text
