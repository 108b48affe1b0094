import ChangeGate.Text.Search
import Mathlib.Data.List.Infix

/-!
# Words replaced in a text

A replacement leaves everything as it is but the words that it is asked to replace. Two words that
start with the same character can be replaced one after the other as if at once, when neither that
character nor the start of the replacement can bring about a word that was not there.
-/

namespace ChangeGate.Text

/-- A text becomes another one as some words are replaced: each of them where it stands, and no
other character. -/
inductive Replaces (words : List (List Char)) (replacement : List Char) :
    List Char → List Char → Prop where
  | nil : Replaces words replacement [] []
  | word {word rest result : List Char} (listed : word ∈ words)
      (others : Replaces words replacement rest result) :
      Replaces words replacement (word ++ rest) (replacement ++ result)
  | char {c : Char} {rest result : List Char} (none : ∀ word ∈ words, ¬ word <+: c :: rest)
      (others : Replaces words replacement rest result) :
      Replaces words replacement (c :: rest) (c :: result)

/-- Words of which none starts another are replaced in one way only. -/
theorem Replaces.unique {words : List (List Char)} {replacement text result other : List Char}
    (present : ∀ word ∈ words, word ≠ [])
    (apart : ∀ word ∈ words, ∀ longer ∈ words, word <+: longer → word = longer)
    (replaced : Replaces words replacement text result)
    (also : Replaces words replacement text other) : result = other := by
  induction replaced generalizing other with
  | nil =>
      generalize empty : ([] : List Char) = text at also
      cases also with
      | nil => rfl
      | word listed _ => exact absurd (List.append_eq_nil_iff.mp empty.symm).1 (present _ listed)
      | char _ _ => cases empty
  | @word word rest result listed _ inductionHypothesis =>
      generalize start : word ++ rest = text at also
      cases also with
      | nil => exact absurd (List.append_eq_nil_iff.mp start).1 (present _ listed)
      | @word twin back _ isListed others =>
          have same : word = twin := by
            rcases List.prefix_or_prefix_of_prefix ⟨rest, start⟩ (List.prefix_append twin back)
              with shorter | longer
            · exact apart _ listed _ isListed shorter
            · exact (apart _ isListed _ listed longer).symm
          subst same
          rw [← List.append_cancel_left start] at others
          rw [inductionHypothesis others]
      | char none _ => exact absurd ⟨rest, start⟩ (none word listed)
  | @char c rest result none _ inductionHypothesis =>
      generalize start : c :: rest = text at also
      cases also with
      | nil => cases start
      | @word twin back _ isListed _ => exact absurd ⟨back, start.symm⟩ (none twin isListed)
      | char _ others =>
          obtain ⟨rfl, rfl⟩ := List.cons.inj start
          rw [inductionHypothesis others]

/-! ## One word -/

section
variable {first : Char} {others replacement : List Char}

theorem replaceAll_word (rest : List Char) :
    replaceAll first others replacement (first :: (others ++ rest)) =
      replacement ++ replaceAll first others replacement rest := by
  have found : textAfter? others (others ++ rest) = some rest := textAfter?_eq_some_iff.mpr rfl
  rw [replaceAll]
  split
  · next after isAfter =>
      rw [if_pos rfl, found] at isAfter
      rw [Option.some.inj isAfter]
  · next none =>
      rw [if_pos rfl, found] at none
      cases none

theorem replaceAll_char {c : Char} {rest : List Char} (none : ¬ first :: others <+: c :: rest) :
    replaceAll first others replacement (c :: rest) =
      c :: replaceAll first others replacement rest := by
  rw [replaceAll]
  split
  · next after isAfter =>
      split at isAfter
      · next same =>
          obtain rfl := textAfter?_eq_some_iff.mp isAfter
          rw [same] at none
          exact absurd (List.prefix_append (first :: others) after) none
      · cases isAfter
  · rfl

/-- A text without the first character of the word is passed over. -/
theorem replaceAll_append {front : List Char} (absent : first ∉ front) (rest : List Char) :
    replaceAll first others replacement (front ++ rest) =
      front ++ replaceAll first others replacement rest := by
  induction front with
  | nil => rfl
  | cons c inner inductionHypothesis =>
      have none : ¬ first :: others <+: c :: (inner ++ rest) :=
        fun starts => List.ne_of_not_mem_cons absent (List.cons_prefix_cons.mp starts).1
      rw [List.cons_append, replaceAll_char none,
        inductionHypothesis (List.not_mem_of_not_mem_cons absent), List.cons_append]

theorem replaces_replaceAll (text : List Char) :
    Replaces [first :: others] replacement text (replaceAll first others replacement text) := by
  induction length : text.length using Nat.strong_induction_on generalizing text with
  | h size inductionHypothesis =>
      subst length
      cases text with
      | nil =>
          rw [replaceAll]
          exact .nil
      | cons c rest =>
          by_cases starts : first :: others <+: c :: rest
          · obtain ⟨after, split⟩ := starts
            rw [← split, List.cons_append, replaceAll_word, ← List.cons_append]
            refine .word (List.mem_singleton_self _) (inductionHypothesis _ ?_ after rfl)
            rw [← split, List.length_append, List.length_cons]
            omega
          · rw [replaceAll_char starts]
            refine .char ?_ (inductionHypothesis _ (Nat.lt_succ_self _) rest rfl)
            intro word isWord
            rwa [List.mem_singleton.mp isWord]

end

/-! ## What stands in the result -/

section
variable {words : List (List Char)} {replacement text result : List Char}

/-- A word that the start of the replacement is no part of starts the result only if it starts the
text. -/
theorem Replaces.isPrefix {opening : Char} (replaced : Replaces words replacement text result)
    (opens : replacement.head? = some opening) {word : List Char} (absent : opening ∉ word)
    (starts : word <+: result) : word <+: text := by
  induction replaced generalizing word with
  | nil => exact starts
  | word _ _ _ =>
      cases word with
      | nil => exact List.nil_prefix
      | cons c inner =>
          -- The result starts with the replacement, so the word would too.
          obtain ⟨tail, rfl⟩ := List.head?_eq_some_iff.mp opens
          rw [(List.cons_prefix_cons.mp starts).1] at absent
          exact absurd List.mem_cons_self absent
  | char _ _ inductionHypothesis =>
      cases word with
      | nil => exact List.nil_prefix
      | cons c inner =>
          obtain ⟨same, starts⟩ := List.cons_prefix_cons.mp starts
          have inText := inductionHypothesis (List.not_mem_of_not_mem_cons absent) starts
          exact List.cons_prefix_cons.mpr ⟨same, inText⟩

/-- A word is not found in a text that lacks its first character, nor across the end of it. -/
theorem isInfix_of_isInfix_append {mark : Char} {word front back : List Char}
    (marked : word.head? = some mark) (absent : mark ∉ front) (within : word <:+: front ++ back) :
    word <:+: back := by
  induction front with
  | nil => exact within
  | cons c inner inductionHypothesis =>
      rcases List.infix_cons_iff.mp within with starts | later
      · obtain ⟨tail, rfl⟩ := List.head?_eq_some_iff.mp marked
        exact absurd (List.cons_prefix_cons.mp starts).1 (List.ne_of_not_mem_cons absent)
      · exact inductionHypothesis (List.not_mem_of_not_mem_cons absent) later

/-- After a replacement none of the words is left, when the first character of the words is not in
the replacement and the first one of the replacement is in none of them. -/
theorem Replaces.not_isInfix {mark opening : Char}
    (replaced : Replaces words replacement text result)
    (opens : replacement.head? = some opening) (unmarked : mark ∉ replacement)
    {word : List Char} (listed : word ∈ words) (marked : word.head? = some mark)
    (absent : opening ∉ word) : ¬ word <:+: result := by
  induction replaced with
  | nil =>
      intro within
      rw [List.infix_nil.mp within] at marked
      cases marked
  | word _ _ inductionHypothesis =>
      exact fun within => inductionHypothesis (isInfix_of_isInfix_append marked unmarked within)
  | char none others inductionHypothesis =>
      intro within
      rcases List.infix_cons_iff.mp within with starts | later
      · exact none word listed ((others.char none).isPrefix opens absent starts)
      · exact inductionHypothesis later

end

/-! ## Two words -/

section
variable {mark opening : Char} {others further replacement : List Char}

/-- Two words with one first character are replaced as if at once when they are replaced one after
the other. -/
theorem replaces_replaceAll_replaceAll (opens : replacement.head? = some opening)
    (unmarked : mark ∉ replacement) (markedOnce : mark ∉ further) (absent : opening ∉ further)
    (text : List Char) :
    Replaces [mark :: others, mark :: further] replacement text
      (replaceAll mark further replacement (replaceAll mark others replacement text)) := by
  induction length : text.length using Nat.strong_induction_on generalizing text with
  | h size inductionHypothesis =>
      subst length
      by_cases firstWord : mark :: others <+: text
      · obtain ⟨after, rfl⟩ := firstWord
        rw [List.cons_append, replaceAll_word, replaceAll_append unmarked, ← List.cons_append]
        refine .word List.mem_cons_self (inductionHypothesis _ ?_ after rfl)
        rw [List.length_append, List.length_cons]
        omega
      by_cases secondWord : mark :: further <+: text
      · obtain ⟨after, rfl⟩ := secondWord
        rw [List.cons_append] at firstWord ⊢
        rw [replaceAll_char firstWord, replaceAll_append markedOnce, replaceAll_word,
          ← List.cons_append]
        refine .word (List.mem_pair.mpr (.inr rfl)) (inductionHypothesis _ ?_ after rfl)
        rw [List.length_append, List.length_cons]
        omega
      cases text with
      | nil =>
          rw [replaceAll, replaceAll]
          exact .nil
      | cons c rest =>
          -- The second word does not come about by what the first one was replaced with.
          have none : ¬ mark :: further <+: c :: replaceAll mark others replacement rest := by
            intro starts
            obtain ⟨same, starts⟩ := List.cons_prefix_cons.mp starts
            have inText := (replaces_replaceAll rest).isPrefix opens absent starts
            exact secondWord (List.cons_prefix_cons.mpr ⟨same, inText⟩)
          rw [replaceAll_char firstWord, replaceAll_char none]
          refine .char ?_ (inductionHypothesis _ (Nat.lt_succ_self _) rest rfl)
          intro word isWord
          rcases List.mem_pair.mp isWord with rfl | rfl
          · exact firstWord
          · exact secondWord

end

end ChangeGate.Text
