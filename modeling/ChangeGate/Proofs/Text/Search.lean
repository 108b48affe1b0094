import ChangeGate.Text.Search
import Mathlib.Data.List.Infix
import Mathlib.Data.List.TakeWhile

/-!
# Places in a text

A search stops at the first place from which on a text has a property. A word whose first character
does not come up in it again cannot overlap with itself, so the word is found first behind any text
that does not hold it. A run of characters goes on until another character stops it.
-/

namespace ChangeGate.Text

/-! ## The first place -/

/-- A text is cut at the first place from which on it has a property. -/
structure CutFirst (property : List Char → Prop) (text before rest : List Char) : Prop where
  cut : text = before ++ rest
  holds : property rest
  first : ∀ back, back <:+ text → property back → back.length ≤ rest.length

section
variable {property : List Char → Prop} {text before rest : List Char}

/-- No place is before the start of a text. -/
theorem CutFirst.here (holds : property text) : CutFirst property text [] text :=
  ⟨rfl, holds, fun _ isSuffix _ => isSuffix.length_le⟩

/-- A character in front makes no difference unless the text has the property from there on. -/
theorem CutFirst.cons {c : Char} (found : CutFirst property text before rest)
    (absent : ¬ property (c :: text)) : CutFirst property (c :: text) (c :: before) rest where
  cut := congrArg (c :: ·) found.cut
  holds := found.holds
  first := by
    intro back isSuffix holds
    rcases List.suffix_cons_iff.mp isSuffix with rfl | inText
    · exact absurd holds absent
    · exact found.first back inText holds

/-- The first place stays the first one for a narrower property that holds there. -/
theorem CutFirst.narrow {narrower : List Char → Prop}
    (found : CutFirst property text before rest) (holds : narrower rest)
    (implies : ∀ back, narrower back → property back) : CutFirst narrower text before rest :=
  ⟨found.cut, holds, fun back isSuffix inBack => found.first back isSuffix (implies back inBack)⟩

/-- Where there is a place, there is a first one. -/
theorem exists_cutFirst (somewhere : ∃ back, back <:+ text ∧ property back) :
    ∃ before rest, CutFirst property text before rest := by
  obtain ⟨back, isSuffix, holds⟩ := somewhere
  induction text with
  | nil =>
      rw [List.suffix_nil.mp isSuffix] at holds
      exact ⟨[], [], .here holds⟩
  | cons c others inductionHypothesis =>
      by_cases here : property (c :: others)
      · exact ⟨[], c :: others, .here here⟩
      · rcases List.suffix_cons_iff.mp isSuffix with rfl | inOthers
        · exact absurd holds here
        · obtain ⟨before, rest, found⟩ := inductionHypothesis inOthers
          exact ⟨c :: before, rest, found.cons here⟩

/-- There is only one first place. -/
theorem CutFirst.rest_eq {front back : List Char} (found : CutFirst property text before rest)
    (other : CutFirst property text front back) : rest = back := by
  have isSuffix : rest <:+ text := ⟨before, found.cut.symm⟩
  have otherSuffix : back <:+ text := ⟨front, other.cut.symm⟩
  have notLonger := found.first back otherSuffix other.holds
  exact (List.suffix_of_suffix_length_le isSuffix otherSuffix
    (other.first rest isSuffix found.holds)).eq_of_length_le notLonger

end

section
variable {α : Type} {recognise : List Char → Option α} {text : List Char}

theorem firstMatch?_of_eq_some {answer : α} (recognised : recognise text = some answer) :
    firstMatch? recognise text = some answer := by
  cases text with
  | nil => rw [firstMatch?, recognised]
  | cons c rest => rw [firstMatch?, recognised, Option.some_or]

/-- A search goes past what stands in front of the places that are recognised. -/
theorem firstMatch?_append {front : List Char}
    (absent : ∀ back, back <:+ front ++ text → text.length < back.length →
      recognise back = none) :
    firstMatch? recognise (front ++ text) = firstMatch? recognise text := by
  induction front with
  | nil => rfl
  | cons c others inductionHypothesis =>
      have here : recognise (c :: (others ++ text)) = none := by
        apply absent _ (List.suffix_refl _)
        rw [List.cons_append, List.length_cons, List.length_append]
        omega
      rw [List.cons_append, firstMatch?, here, Option.none_or]
      exact inductionHypothesis fun back isSuffix =>
        absent back (isSuffix.trans (List.suffix_cons c _))

/-- What a search answers is recognised somewhere. -/
theorem exists_of_firstMatch?_eq_some {answer : α}
    (found : firstMatch? recognise text = some answer) :
    ∃ back, back <:+ text ∧ recognise back = some answer := by
  induction text with
  | nil => exact ⟨[], List.suffix_rfl, found⟩
  | cons c rest inductionHypothesis =>
      rw [firstMatch?, Option.or_eq_some_iff] at found
      rcases found with here | ⟨-, later⟩
      · exact ⟨c :: rest, List.suffix_rfl, here⟩
      · obtain ⟨back, isSuffix, recognised⟩ := inductionHypothesis later
        exact ⟨back, isSuffix.trans (List.suffix_cons c rest), recognised⟩

/-- A search answers what is recognised at the first place. -/
theorem CutFirst.firstMatch?_eq {property : List Char → Prop} {before rest : List Char}
    (found : CutFirst property text before rest)
    (recognises : ∀ back, property back ↔ ∃ answer, recognise back = some answer) :
    firstMatch? recognise text = recognise rest := by
  obtain ⟨answer, recognised⟩ := (recognises rest).mp found.holds
  rw [found.cut, firstMatch?_append, firstMatch?_of_eq_some recognised, recognised]
  intro back isSuffix longer
  rw [← found.cut] at isSuffix
  rw [Option.eq_none_iff_forall_ne_some]
  intro other isOther
  have notLonger := found.first back isSuffix ((recognises back).mpr ⟨other, isOther⟩)
  omega

end

/-! ## Words -/

section
variable {word before rest : List Char}

/-- A word whose first character does not come up in it again is no part of the text in front of it
and of itself, unless it is a part of the text. -/
theorem isPrefix_of_isPrefix_append {front : List Char} (fresh : word.head? ∉ word.tail.map some)
    (present : front ≠ []) (starts : word <+: front ++ (word ++ rest)) : word <+: front := by
  have isPrefix : front <+: front ++ (word ++ rest) := List.prefix_append _ _
  rcases Nat.le_total word.length front.length with shorter | longer
  · exact List.prefix_of_prefix_length_le starts isPrefix shorter
  · obtain ⟨tail, split⟩ := List.prefix_of_prefix_length_le isPrefix starts longer
    obtain ⟨first, inner, rfl⟩ := List.exists_cons_of_ne_nil present
    subst split
    cases tail with
    | nil => rw [List.append_nil]
    | cons c others =>
        -- The rest of the word starts like the word, so its first character comes up again.
        rw [List.prefix_append_right_inj, List.cons_append, List.cons_append,
          List.cons_prefix_cons] at starts
        have again : first ∈ inner ++ c :: others :=
          starts.1 ▸ List.mem_append_right inner List.mem_cons_self
        exact absurd (List.mem_map_of_mem again) fresh

/-- Behind a text that does not hold it, a word is found first. -/
theorem cutFirst_word (fresh : word.head? ∉ word.tail.map some) (absent : ¬ word <:+: before) :
    CutFirst (word <+: ·) (before ++ (word ++ rest)) before (word ++ rest) where
  cut := rfl
  holds := List.prefix_append _ _
  first := by
    intro back isSuffix starts
    by_contra longer
    obtain ⟨front, rfl⟩ : word ++ rest <:+ back :=
      List.suffix_of_suffix_length_le (List.suffix_append _ _) isSuffix (by omega)
    have isSuffix : front <:+ before := List.suffix_append_self_iff.mp isSuffix
    have present : front ≠ [] := by
      rintro rfl
      exact longer (Nat.le_refl _)
    have inFront := isPrefix_of_isPrefix_append fresh present starts
    exact absent (inFront.isInfix.trans isSuffix.isInfix)

/-- Whatever is appended to a text, a word that it holds is found at the same place. -/
theorem CutFirst.append {text : List Char}
    (found : CutFirst (word <+: ·) text before (word ++ rest)) (after : List Char) :
    CutFirst (word <+: ·) (text ++ after) before (word ++ (rest ++ after)) where
  cut := by rw [found.cut, List.append_assoc, List.append_assoc]
  holds := List.prefix_append _ _
  first := by
    intro back isSuffix starts
    by_contra longer
    simp only [List.length_append, not_le] at longer
    obtain ⟨inner, rfl⟩ : after <:+ back :=
      List.suffix_of_suffix_length_le (List.suffix_append _ _) isSuffix (by omega)
    rw [List.length_append] at longer
    have inText : word <+: inner :=
      List.prefix_of_prefix_length_le starts (List.prefix_append _ _) (by omega)
    have notLonger := found.first inner (List.suffix_append_self_iff.mp isSuffix) inText
    rw [List.length_append] at notLonger
    omega

end

/-! ## Runs -/

/-- A text does not go on with certain characters. -/
def Stops (inside : Char → Bool) (text : List Char) : Prop :=
  ∀ c ∈ text.head?, inside c = false

instance (inside : Char → Bool) (text : List Char) : Decidable (Stops inside text) :=
  Option.decidableForallMem text.head?

section
variable {inside : Char → Bool} {run rest : List Char}

theorem stops_dropWhile (inside : Char → Bool) (text : List Char) :
    Stops inside (text.dropWhile inside) := by
  intro c isHead
  have stopped := List.head?_dropWhile_not inside text
  rw [Option.mem_def.mp isHead] at stopped
  simpa using stopped

theorem stops_cons {c : Char} (outside : inside c = false) : Stops inside (c :: rest) := by
  intro d isHead
  rw [← Option.some.inj isHead]
  exact outside

theorem stops_append {word : List Char} (present : word ≠ [])
    (outside : ∀ c ∈ word, inside c = false) : Stops inside (word ++ rest) := by
  obtain ⟨first, others, rfl⟩ := List.exists_cons_of_ne_nil present
  exact stops_cons (outside first List.mem_cons_self)

theorem stops_of_outside {text : List Char} (outside : ∀ c ∈ text, inside c = false) :
    Stops inside text :=
  fun c isHead => outside c (List.mem_of_head? isHead)

theorem Stops.append {front : List Char} (stops : Stops inside rest)
    (stopsBefore : Stops inside front) : Stops inside (front ++ rest) := by
  cases front with
  | nil => exact stops
  | cons first others => exact stops_cons (stopsBefore first rfl)

/-- A run is taken as a whole when the text does not go on with its characters. -/
theorem takeWhile_append_of_stops (all : ∀ c ∈ run, inside c = true) (stops : Stops inside rest) :
    (run ++ rest).takeWhile inside = run := by
  rw [List.takeWhile_append_of_pos all]
  cases rest with
  | nil => rw [List.takeWhile_nil, List.append_nil]
  | cons c others =>
      have notInside : ¬ inside c = true := by simp [stops c rfl]
      rw [List.takeWhile_cons_of_neg notInside, List.append_nil]

/-- What follows a run is left. -/
theorem dropWhile_append_of_stops (all : ∀ c ∈ run, inside c = true) (stops : Stops inside rest) :
    (run ++ rest).dropWhile inside = rest := by
  rw [List.dropWhile_append_of_pos all]
  cases rest with
  | nil => rfl
  | cons c others =>
      have notInside : ¬ inside c = true := by simp [stops c rfl]
      rw [List.dropWhile_cons_of_neg notInside]

end

end ChangeGate.Text
