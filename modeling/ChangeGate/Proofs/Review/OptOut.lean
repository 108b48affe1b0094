import ChangeGate.Proofs.Text.Blank
import ChangeGate.Proofs.Text.LetterCase
import ChangeGate.Review.Marker

/-!
# Opting out of tests

The test directive of a message is the first word behind the first label, on the same line or on a
later one. A change opts out of the tests when that word is `none`, in whatever case; what stands in
front of the label or behind the word makes no difference.
-/

namespace ChangeGate.Review

open ChangeGate.Text

/-! ## The first word -/

/-- The first word of a text, behind white space or none, up to the next white space or the end. -/
inductive FirstWord (word : List Char) : List Char → Prop where
  | behind {blank rest : List Char} (allBlank : ∀ c ∈ blank, isBlank c = true)
      (present : word ≠ []) (solid : ∀ c ∈ word, isBlank c = false)
      (stops : Stops (!isBlank ·) rest) : FirstWord word (blank ++ word ++ rest)

/-- White space stands between two texts, or one of them is empty. -/
def Apart (text rest : List Char) : Prop :=
  ∀ last ∈ text.getLast?, ∀ first ∈ rest.head?, isBlank last = true ∨ isBlank first = true

instance (text rest : List Char) : Decidable (Apart text rest) :=
  @Option.decidableForallMem _ _ (fun _ => Option.decidableForallMem rest.head?) text.getLast?

section
variable {word text rest : List Char}

theorem firstWord_iff : FirstWord word text ↔
    word ≠ [] ∧ (trimStart text).takeWhile (!isBlank ·) = word := by
  constructor
  · intro first
    cases first with
    | @behind blank rest allBlank present solid stops =>
        refine ⟨present, ?_⟩
        rw [List.append_assoc, trimStart_append allBlank (stops_append present solid)]
        exact takeWhile_append_of_stops (fun c member => by rw [solid c member, Bool.not_false])
          stops
  · rintro ⟨present, rfl⟩
    obtain ⟨blank, split, allBlank⟩ := exists_trimStart text
    have solid : ∀ c ∈ (trimStart text).takeWhile (!isBlank ·), isBlank c = false :=
      fun c member => by simpa using List.mem_takeWhile_imp member
    have first := FirstWord.behind allBlank present solid (stops_dropWhile _ (trimStart text))
    rwa [List.append_assoc, List.takeWhile_append_dropWhile, ← split] at first

/-- A text has a first word unless it is nothing but white space. -/
theorem exists_firstWord_iff : (∃ word, FirstWord word text) ↔ ∃ c ∈ text, isBlank c = false := by
  constructor
  · rintro ⟨word, first⟩
    cases first with
    | behind allBlank present solid stops =>
        obtain ⟨c, member⟩ := List.exists_mem_of_ne_nil _ present
        exact ⟨c, List.mem_append_left _ (List.mem_append_right _ member), solid c member⟩
  · rintro ⟨c, member, solid⟩
    simp only [firstWord_iff]
    refine ⟨_, ?_, rfl⟩
    have stops : Stops isBlank (trimStart text) := stops_dropWhile isBlank text
    cases kept : trimStart text with
    | nil =>
        rw [List.dropWhile_eq_nil_iff.mp kept c member] at solid
        cases solid
    | cons d others =>
        have outside : isBlank d = false := stops d (by rw [kept, List.head?_cons, Option.mem_def])
        rw [List.takeWhile_cons_of_pos (by rw [outside, Bool.not_false])]
        exact List.cons_ne_nil d _

/-- What is appended behind white space is no part of the first word. -/
theorem FirstWord.append (first : FirstWord word text) (apart : Apart text rest) :
    FirstWord word (text ++ rest) := by
  cases first with
  | @behind blank after allBlank present solid stops =>
      rw [List.append_assoc]
      refine .behind allBlank present solid ?_
      cases after with
      | nil =>
          -- The text ends with the word, so the white space is what follows.
          intro c isHead
          have isLast : word.getLast present ∈ (blank ++ word ++ []).getLast? := by
            rw [List.append_nil, List.getLast?_append, List.getLast?_eq_some_getLast present,
              Option.some_or, Option.mem_def]
          rcases apart _ isLast c isHead with lastBlank | firstBlank
          · rw [solid _ (List.getLast_mem present)] at lastBlank
            cases lastBlank
          · simp only [firstBlank, Bool.not_true]
      | cons c others => exact stops_cons (stops c rfl)

end

/-! ## The first label -/

/-- The first label of a text, with what stands on both sides of it. -/
def FirstLabel (text before behind : List Char) : Prop :=
  CutFirst ("PresubmitTest:".toList <+: ·) text before ("PresubmitTest:".toList ++ behind)

/-- The value of a text is the first word behind the first label in it. -/
def HoldsValue (text value : List Char) : Prop :=
  ∃ before behind, FirstLabel text before behind ∧ FirstWord value behind

theorem directiveValue?_eq_some_iff {text value : List Char} :
    directiveValue? text = some value ↔
      ∃ behind, text = "PresubmitTest:".toList ++ behind ∧ FirstWord value behind := by
  rw [directiveValue?]
  simp only [Option.bind_eq_bind, Option.bind_eq_some_iff, textAfter?_eq_some_iff, firstWord_iff]
  refine exists_congr fun behind => and_congr_right fun _ => ?_
  constructor
  · intro found
    split at found
    · cases found
    · next present =>
      obtain rfl := Option.some.inj found
      exact ⟨present, rfl⟩
  · rintro ⟨present, isWord⟩
    obtain ⟨first, others, rfl⟩ := List.exists_cons_of_ne_nil present
    rw [isWord]

section
variable {text before behind value rest : List Char}

/-- Where there is a label at all there is a first one. -/
theorem exists_firstLabel (labelled : "PresubmitTest:".toList <:+: text) :
    ∃ before behind, FirstLabel text before behind := by
  obtain ⟨front, back, split⟩ := labelled
  obtain ⟨before, rest, found⟩ := @exists_cutFirst ("PresubmitTest:".toList <+: ·) text
    ⟨"PresubmitTest:".toList ++ back, ⟨front, by rw [← split, List.append_assoc]⟩,
      List.prefix_append _ _⟩
  obtain ⟨behind, rfl⟩ := found.holds
  exact ⟨before, behind, found⟩

theorem FirstLabel.holdsValue_iff (first : FirstLabel text before behind) :
    HoldsValue text value ↔ FirstWord value behind := by
  constructor
  · rintro ⟨front, others, otherFirst, word⟩
    rwa [List.append_cancel_left (CutFirst.rest_eq first otherFirst)]
  · exact fun word => ⟨before, behind, first, word⟩

/-- What is behind a label is at the end of what is behind the first one. -/
theorem FirstLabel.isSuffix {later : List Char} (first : FirstLabel text before behind)
    (isLabel : "PresubmitTest:".toList ++ later <:+ text) : later <:+ behind := by
  have inRest : "PresubmitTest:".toList ++ later <:+ "PresubmitTest:".toList ++ behind :=
    List.suffix_of_suffix_length_le isLabel ⟨before, first.cut.symm⟩
      (first.first _ isLabel (List.prefix_append _ _))
  refine List.suffix_of_suffix_length_le ((List.suffix_append _ later).trans inRest)
    (List.suffix_append _ behind) ?_
  have notLonger := inRest.length_le
  rw [List.length_append, List.length_append] at notLonger
  omega

theorem FirstLabel.firstMatch?_eq (first : FirstLabel text before behind)
    (isFirst : FirstWord value behind) : firstMatch? directiveValue? text = some value := by
  have valued : directiveValue? ("PresubmitTest:".toList ++ behind) = some value :=
    directiveValue?_eq_some_iff.mpr ⟨behind, rfl, isFirst⟩
  have isLabel (back : List Char) (isValued : ∃ word, directiveValue? back = some word) :
      "PresubmitTest:".toList <+: back := by
    obtain ⟨word, isValue⟩ := isValued
    obtain ⟨_, rfl, -⟩ := directiveValue?_eq_some_iff.mp isValue
    exact List.prefix_append _ _
  have found := CutFirst.narrow first ⟨value, valued⟩ isLabel
  rw [found.firstMatch?_eq fun _ => Iff.rfl, valued]

/-- A search for a value never goes past the first label: when there is no word behind that one,
there is none behind a later one. -/
theorem firstMatch?_directiveValue?_eq_some_iff :
    firstMatch? directiveValue? text = some value ↔ HoldsValue text value := by
  constructor
  · intro found
    obtain ⟨back, isSuffix, isValue⟩ := exists_of_firstMatch?_eq_some found
    obtain ⟨later, rfl, isLater⟩ := directiveValue?_eq_some_iff.mp isValue
    obtain ⟨before, behind, first⟩ := exists_firstLabel
      ((List.prefix_append _ later).isInfix.trans isSuffix.isInfix)
    obtain ⟨c, member, solid⟩ := exists_firstWord_iff.mp ⟨_, isLater⟩
    obtain ⟨firstWord, isFirst⟩ :=
      exists_firstWord_iff.mpr ⟨c, (first.isSuffix isSuffix).subset member, solid⟩
    rw [first.firstMatch?_eq isFirst] at found
    obtain rfl := Option.some.inj found
    exact ⟨before, behind, first, isFirst⟩
  · rintro ⟨before, behind, first, isFirst⟩
    exact first.firstMatch?_eq isFirst

/-- A value stays the value of a text when something is appended behind white space. -/
theorem HoldsValue.append (holds : HoldsValue text value) (apart : Apart text rest) :
    HoldsValue (text ++ rest) value := by
  obtain ⟨before, behind, first, word⟩ := holds
  refine ⟨before, behind ++ rest, CutFirst.append first rest, word.append ?_⟩
  intro last isLast
  apply apart last
  rw [first.cut, List.getLast?_append, List.getLast?_append, Option.mem_def.mp isLast,
    Option.some_or, Option.some_or, Option.mem_def]

end

/-! ## The directive -/

section
variable {message : String}

theorem directive_eq_skip_iff : directive message = .skip ↔
    ∃ value, HoldsValue message.toList value ∧ SameLetters value "none".toList := by
  simp only [← firstMatch?_directiveValue?_eq_some_iff]
  rw [directive]
  cases firstMatch? directiveValue? message.toList with
  | none => simp
  | some value => simp [SameLetters, lowerCase]

/-- Nothing but the value of a message decides its directive. -/
theorem directive_congr {other : String}
    (same : ∀ value, HoldsValue message.toList value ↔ HoldsValue other.toList value) :
    directive message = directive other := by
  have sameFound : firstMatch? directiveValue? message.toList =
      firstMatch? directiveValue? other.toList := by
    apply Option.ext
    intro value
    rw [firstMatch?_directiveValue?_eq_some_iff, firstMatch?_directiveValue?_eq_some_iff, same]
  rw [directive, directive, sameFound]

/-- The value of a message stays its value when something is appended behind white space. -/
theorem directive_append {rest : String} (valued : ∃ value, HoldsValue message.toList value)
    (apart : Apart message.toList rest.toList) : directive (message ++ rest) = directive message := by
  obtain ⟨value, holds⟩ := valued
  have further := holds.append apart
  rw [directive, directive, String.toList_append,
    firstMatch?_directiveValue?_eq_some_iff.mpr further,
    firstMatch?_directiveValue?_eq_some_iff.mpr holds]

end

/-- Behind a text without a label, the first label is the one that follows. -/
theorem firstLabel_written {front behind : List Char}
    (unlabelled : ¬ "PresubmitTest:".toList <:+: front) :
    FirstLabel (front ++ ("PresubmitTest:".toList ++ behind)) front behind :=
  cutFirst_word (by decide) unlabelled

/-- What holds of a message and its test directive. -/
structure DirectiveLaws (message : String) : Prop where
  /-- The tests are skipped when the first word behind the first label is `none`, in any case. -/
  skips_iff : directive message = .skip ↔ ∃ before behind value,
    FirstLabel message.toList before behind ∧ FirstWord value behind ∧
      SameLetters value "none".toList
  /-- Nothing but that word decides, so later labels do not. -/
  decided : ∀ {other : String} {before behind front back},
    FirstLabel message.toList before behind → FirstLabel other.toList front back →
      (∀ value, FirstWord value behind ↔ FirstWord value back) →
        directive message = directive other
  /-- What stands in front of the first label makes no difference. -/
  inFront : ∀ {front : String}, ¬ "PresubmitTest:".toList <:+: front.toList →
    directive (front ++ "PresubmitTest:" ++ message) = directive ("PresubmitTest:" ++ message)
  /-- What is appended behind white space makes no difference once there is a value. -/
  appended : (∃ value, HoldsValue message.toList value) → ∀ {rest : String},
    Apart message.toList rest.toList → directive (message ++ rest) = directive message

/-- The first word behind the first label of a message is the one that counts. -/
theorem directiveLaws (message : String) : DirectiveLaws message where
  skips_iff := by
    simp only [directive_eq_skip_iff, HoldsValue]
    constructor
    · rintro ⟨value, ⟨before, behind, first, word⟩, same⟩
      exact ⟨before, behind, value, first, word, same⟩
    · rintro ⟨before, behind, value, first, word, same⟩
      exact ⟨value, ⟨before, behind, first, word⟩, same⟩
  decided := by
    intro other before behind front back first otherFirst same
    refine directive_congr fun value => ?_
    rw [first.holdsValue_iff, otherFirst.holdsValue_iff, same]
  inFront := by
    intro front unlabelled
    refine directive_congr fun value => ?_
    have noText : ¬ "PresubmitTest:".toList <:+: [] := by decide
    rw [String.toList_append, String.toList_append, String.toList_append, List.append_assoc,
      (firstLabel_written unlabelled).holdsValue_iff]
    exact (firstLabel_written noText).holdsValue_iff.symm
  appended valued _ apart := directive_append valued apart

/-- A value on the next line counts in any case, whatever stands around it: a later label does not
take it back. A word that only starts like the value does not count. -/
theorem directiveLaws_of_two_labels :
    directive "fix PresubmitTest:\u2003\nNonE PresubmitTest: all" = .skip ∧
      directive "fix PresubmitTest: none." = .run := by
  have split : "PresubmitTest:\u2003\nNonE".toList =
      [] ++ ("PresubmitTest:".toList ++ "\u2003\nNonE".toList) := by decide
  have first : FirstLabel "PresubmitTest:\u2003\nNonE".toList [] "\u2003\nNonE".toList := by
    rw [split]
    exact firstLabel_written (by decide)
  have word : FirstWord "NonE".toList "\u2003\nNonE".toList :=
    firstWord_iff.mpr ⟨by decide, by decide⟩
  have laws := directiveLaws "PresubmitTest:\u2003\nNonE"
  have skips : directive "PresubmitTest:\u2003\nNonE" = .skip :=
    laws.skips_iff.mpr ⟨_, _, "NonE".toList, first, word, by decide⟩
  have appended := @laws.appended ⟨_, _, _, first, word⟩ " PresubmitTest: all" (by decide)
  have inFront := @(directiveLaws "\u2003\nNonE PresubmitTest: all").inFront "fix " (by decide)
  exact ⟨inFront.trans (appended.trans skips), by decide⟩

end ChangeGate.Review
