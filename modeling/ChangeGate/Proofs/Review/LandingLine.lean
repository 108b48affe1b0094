import ChangeGate.Proofs.Text.Blank
import ChangeGate.Proofs.Text.Pieces
import ChangeGate.Proofs.Text.Search
import ChangeGate.Review.Marker

/-!
# The line that asks to land

The landing word is looked for between the start of a line and the end of one, and the white space
around it may go on over several lines. Nothing is gained from that: a message asks to land exactly
when one of its lines is the word and nothing else. So other lines never take back what a line asks
for, and a line with other text on it asks for nothing.
-/

namespace ChangeGate.Review

open ChangeGate.Text

/-! ## Places of the word -/

/-- A line starts behind a text. -/
def StartsLine (before : List Char) : Prop :=
  ∀ c ∈ before.getLast?, c = '\n'

/-- A line ends in front of a text. -/
def EndsLine (after : List Char) : Prop :=
  ∀ c ∈ after.head?, c = '\n'

/-- A text with the landing word in it, where nothing but white space stands between the start of a
line and the word, and between the word and the end of a line. -/
inductive HoldsLandingWord : List Char → Prop where
  | between {before front back after : List Char} (starts : StartsLine before)
      (frontBlank : ∀ c ∈ front, isBlank c = true) (backBlank : ∀ c ∈ back, isBlank c = true)
      (ends : EndsLine after) :
      HoldsLandingWord (before ++ front ++ "AutoSubmit".toList ++ back ++ after)

theorem solid_landingWord : ∀ c ∈ "AutoSubmit".toList, isBlank c = false := by
  have solid : "AutoSubmit".toList.all (!isBlank ·) = true := by decide
  simpa only [List.all_eq_true, Bool.not_eq_true'] using solid

theorem StartsLine.append {before front : List Char} (starts : StartsLine before)
    (further : StartsLine front) : StartsLine (before ++ front) := by
  intro c isLast
  rw [List.getLast?_append, Option.mem_def, Option.or_eq_some_iff] at isLast
  rcases isLast with inFront | ⟨-, inBefore⟩
  · exact further c inFront
  · exact starts c inBefore

theorem EndsLine.append {back after : List Char} (ends : EndsLine after)
    (earlier : EndsLine back) : EndsLine (back ++ after) := by
  intro c isHead
  rw [List.head?_append, Option.mem_def, Option.or_eq_some_iff] at isHead
  rcases isHead with inBack | ⟨-, inAfter⟩
  · exact earlier c inBack
  · exact ends c inAfter

/-- Every text starts with the rest of a line. -/
theorem exists_firstLine (text : List Char) :
    ∃ line below, text = line ++ below ∧ '\n' ∉ line ∧ EndsLine below := by
  refine ⟨text.takeWhile (· ≠ '\n'), text.dropWhile (· ≠ '\n'),
    List.takeWhile_append_dropWhile.symm, ?_, ?_⟩
  · intro member
    simpa using List.mem_takeWhile_imp member
  · intro c isHead
    simpa using stops_dropWhile _ text c isHead

/-- Every text ends with the beginning of a line. -/
theorem exists_lastLine (text : List Char) :
    ∃ above line, text = above ++ line ∧ '\n' ∉ line ∧ StartsLine above := by
  obtain ⟨line, below, split, unbroken, ends⟩ := exists_firstLine text.reverse
  refine ⟨below.reverse, line.reverse, ?_, ?_, ?_⟩
  · rw [← List.reverse_append, ← split, List.reverse_reverse]
  · exact fun member => unbroken (List.mem_reverse.mp member)
  · intro c isLast
    rw [List.getLast?_reverse] at isLast
    exact ends c isLast

/-- The word is held between a start and an end of a line exactly when some line is the word with
white space around it. -/
theorem holdsLandingWord_iff {text : List Char} :
    HoldsLandingWord text ↔ ∃ line ∈ text.splitOn '\n', trim line = "AutoSubmit".toList := by
  simp only [trim_eq_iff solid_landingWord, mem_splitOn_iff]
  constructor
  · intro holds
    cases holds with
    | @between before front back after starts frontBlank backBlank ends =>
        -- The line is what is left of the white space behind its last break and in front of its
        -- first one.
        obtain ⟨above, lead, rfl, leadUnbroken, further⟩ := exists_lastLine front
        obtain ⟨trail, below, rfl, trailUnbroken, earlier⟩ := exists_firstLine back
        refine ⟨lead ++ "AutoSubmit".toList ++ trail,
          ⟨?_, before ++ above, below ++ after, ?_, starts.append further, ends.append earlier⟩,
          lead, trail, rfl, ?_, ?_⟩
        · have wordUnbroken : '\n' ∉ "AutoSubmit".toList := by decide
          rw [List.mem_append, List.mem_append]
          rintro ((inLead | inWord) | inTrail)
          · exact leadUnbroken inLead
          · exact wordUnbroken inWord
          · exact trailUnbroken inTrail
        · simp only [List.append_assoc]
        · exact fun c member => frontBlank c (List.mem_append_right above member)
        · exact fun c member => backBlank c (List.mem_append_left below member)
  · rintro ⟨_, ⟨-, before, after, rfl, starts, ends⟩, front, back, rfl, frontBlank, backBlank⟩
    have holds := HoldsLandingWord.between starts frontBlank backBlank ends
    simpa only [List.append_assoc] using holds

/-! ## Looking for it -/

theorem mem_laterLines_iff {text rest : List Char} :
    rest ∈ laterLines text ↔ ∃ before, text = before ++ '\n' :: rest := by
  induction text with
  | nil => simp [laterLines]
  | cons c others inductionHypothesis =>
      have later : (∃ before, others = before ++ '\n' :: rest) ↔
          ∃ before, c :: others = (c :: before) ++ '\n' :: rest := by simp
      rw [laterLines]
      split
      · next isBreak =>
        rw [List.mem_cons, inductionHypothesis, later]
        constructor
        · rintro (rfl | ⟨before, split⟩)
          · exact ⟨[], by rw [isBreak, List.nil_append]⟩
          · exact ⟨_, split⟩
        · rintro ⟨before, split⟩
          cases before with
          | nil => exact Or.inl (List.cons.inj split).2.symm
          | cons d before => exact Or.inr ⟨before, (List.cons.inj split).1 ▸ split⟩
      · next noBreak =>
        rw [inductionHypothesis, later]
        constructor
        · exact fun ⟨before, split⟩ => ⟨_, split⟩
        · rintro ⟨before, split⟩
          cases before with
          | nil => exact absurd (List.cons.inj split).1 noBreak
          | cons d before => exact ⟨before, (List.cons.inj split).1 ▸ split⟩

/-- The word is looked for from every place where a line starts. -/
theorem mem_lineStarts_iff {text rest : List Char} :
    rest ∈ text :: laterLines text ↔ ∃ before, text = before ++ rest ∧ StartsLine before := by
  rw [List.mem_cons, mem_laterLines_iff]
  constructor
  · rintro (rfl | ⟨before, rfl⟩)
    · exact ⟨[], rfl, fun _ isLast => by cases isLast⟩
    · refine ⟨before ++ ['\n'], List.append_cons _ _ _, fun c isLast => ?_⟩
      rw [List.getLast?_concat] at isLast
      exact (Option.some.inj isLast).symm
  · rintro ⟨before, rfl, starts⟩
    rcases List.eq_nil_or_concat' before with rfl | ⟨earlier, last, rfl⟩
    · exact Or.inl rfl
    · rw [starts last List.getLast?_concat, ← List.append_cons]
      exact Or.inr ⟨earlier, rfl⟩

/-- From the start of a line on, the word is found first, up to the end of a line. -/
theorem startsWithLandingWord_iff {text : List Char} :
    startsWithLandingWord text = true ↔ ∃ front back after,
      text = front ++ "AutoSubmit".toList ++ back ++ after ∧ (∀ c ∈ front, isBlank c = true) ∧
        (∀ c ∈ back, isBlank c = true) ∧ EndsLine after := by
  rw [startsWithLandingWord]
  constructor
  · intro found
    split at found
    · next rest behind =>
      obtain ⟨front, split, frontBlank⟩ := exists_trimStart text
      rw [textAfter?_eq_some_iff.mp behind, ← List.append_assoc] at split
      rcases Bool.or_eq_true _ _ ▸ found with nothing | broken
      · refine ⟨front, rest, [], by rw [List.append_nil, split], frontBlank, ?_, ?_⟩
        · exact List.dropWhile_eq_nil_iff.mp (List.isEmpty_iff.mp nothing)
        · intro c isHead
          cases isHead
      · obtain ⟨back, others, blanks⟩ := List.append_of_mem (List.contains_iff_mem.mp broken)
        have cut : rest = back ++ ('\n' :: others ++ trimStart rest) := by
          rw [← List.append_assoc, ← blanks, takeWhile_append_trimStart]
        refine ⟨front, back, '\n' :: others ++ trimStart rest, ?_, frontBlank, ?_, ?_⟩
        · rw [List.append_assoc, ← cut, split]
        · intro c member
          apply @List.mem_takeWhile_imp _ isBlank rest
          rw [blanks]
          exact List.mem_append_left _ member
        · intro c isHead
          exact (Option.some.inj isHead).symm
    · cases found
  · rintro ⟨front, back, after, rfl, frontBlank, backBlank, ends⟩
    have trimmed : trimStart (front ++ "AutoSubmit".toList ++ back ++ after) =
        "AutoSubmit".toList ++ (back ++ after) := by
      rw [List.append_assoc, List.append_assoc]
      exact trimStart_append frontBlank (stops_append (by decide) solid_landingWord)
    rw [trimmed, textAfter?_eq_some_iff.mpr rfl]
    cases after with
    | nil =>
        have nothing : trimStart (back ++ []) = [] := by
          rw [List.append_nil]
          exact List.dropWhile_eq_nil_iff.mpr backBlank
        simp only [nothing, List.isEmpty_nil, Bool.true_or]
    | cons c others =>
        have broken : '\n' ∈ (back ++ c :: others).takeWhile isBlank := by
          rw [ends c rfl, List.takeWhile_append_of_pos backBlank,
            List.takeWhile_cons_of_pos (by decide)]
          exact List.mem_append_right _ List.mem_cons_self
        simp only [List.contains_iff_mem.mpr broken, Bool.or_true]

/-- A message asks to land when the word is found in it. -/
theorem asksToLand_iff_holdsLandingWord {message : String} :
    asksToLand message = true ↔ HoldsLandingWord message.toList := by
  rw [asksToLand, List.any_eq_true]
  simp only [startsWithLandingWord_iff, mem_lineStarts_iff]
  constructor
  · rintro ⟨rest, ⟨before, split, starts⟩, front, back, after, rfl, frontBlank, backBlank, ends⟩
    rw [split]
    have holds := HoldsLandingWord.between starts frontBlank backBlank ends
    simpa only [List.append_assoc] using holds
  · generalize message.toList = text
    intro holds
    cases holds with
    | @between before front back after starts frontBlank backBlank ends =>
        refine ⟨front ++ "AutoSubmit".toList ++ back ++ after, ⟨before, ?_, starts⟩,
          front, back, after, rfl, frontBlank, backBlank, ends⟩
        simp only [List.append_assoc]

/-- A message asks to land when one of its lines is the word and nothing else. -/
theorem asksToLand_iff_line {message : String} :
    asksToLand message = true ↔
      ∃ line ∈ message.toList.splitOn '\n', trim line = "AutoSubmit".toList := by
  rw [asksToLand_iff_holdsLandingWord, holdsLandingWord_iff]

/-! ## Lines beside it -/

theorem asksToLand_append_break (above below : String) :
    asksToLand (above ++ "\n" ++ below) = (asksToLand above || asksToLand below) := by
  have joined : (above ++ "\n" ++ below).toList = above.toList ++ '\n' :: below.toList := by
    rw [String.toList_append, String.toList_append, List.append_assoc]
    rfl
  rw [Bool.eq_iff_iff, Bool.or_eq_true, asksToLand_iff_line, asksToLand_iff_line,
    asksToLand_iff_line, joined, List.splitOn_append_cons_self]
  simp only [List.mem_append, or_and_right, exists_or]

/-- Texts below each other ask to land when one of them does. -/
theorem asksToLand_intercalate (texts : List String) :
    asksToLand (String.intercalate "\n" texts) = texts.any asksToLand := by
  induction texts with
  | nil => rfl
  | cons first rest inductionHypothesis =>
      cases rest with
      | nil => rw [String.intercalate_singleton, List.any_cons, List.any_nil, Bool.or_false]
      | cons second others =>
          rw [String.intercalate_cons_cons, asksToLand_append_break, inductionHypothesis]
          rfl

/-- A single line with the word and something else on it does not ask to land. -/
theorem asksToLand_eq_false_of_crowded {front back : String}
    (oneLine : '\n' ∉ front.toList ++ back.toList)
    (crowded : ¬ (isBlankText front = true ∧ isBlankText back = true)) :
    asksToLand (front ++ "AutoSubmit" ++ back) = false := by
  rw [Bool.eq_false_iff, ne_eq, asksToLand_iff_line, String.toList_append, String.toList_append]
  rw [List.mem_append, not_or] at oneLine
  have unbroken : '\n' ∉ front.toList ++ "AutoSubmit".toList ++ back.toList := by
    have wordUnbroken : '\n' ∉ "AutoSubmit".toList := by decide
    simp only [List.mem_append, oneLine, wordUnbroken, or_self, not_false_eq_true]
  rw [List.splitOn_eq_singleton unbroken]
  rintro ⟨line, isLine, isWord⟩
  rw [List.mem_singleton.mp isLine, trim_eq_iff solid_landingWord] at isWord
  obtain ⟨lead, trail, same, leadBlank, trailBlank⟩ := isWord
  -- Apart from white space the line is the word on the one side, so nothing is beside it on the
  -- other.
  have noSolid {text : List Char} (blank : ∀ c ∈ text, isBlank c = true) :
      text.countP (!isBlank ·) = 0 := by
    rw [List.countP_eq_zero]
    intro c member
    simp [blank c member]
  have allBlank {text : String} (none : text.toList.countP (!isBlank ·) = 0) :
      isBlankText text = true := by
    rw [isBlankText, List.all_eq_true]
    simpa using List.countP_eq_zero.mp none
  have counts := congrArg (List.countP (!isBlank ·)) same
  simp only [List.countP_append, noSolid leadBlank, noSolid trailBlank] at counts
  exact crowded ⟨allBlank (by omega), allBlank (by omega)⟩

/-- What holds of a message and the lines around it. -/
structure LandingLaws (message : String) : Prop where
  /-- It asks to land when the landing word stands in it between the start and the end of a line,
  with nothing but white space beside it. -/
  asks_iff_holds : asksToLand message = true ↔ HoldsLandingWord message.toList
  /-- That is when one of its lines is the word, once it is trimmed. -/
  asks_iff_line : asksToLand message = true ↔
    ∃ line ∈ message.toList.splitOn '\n', trim line = "AutoSubmit".toList
  /-- With further lines above and below it still asks to land. -/
  furtherLines : asksToLand message = true → ∀ above below : List String,
    asksToLand (String.intercalate "\n" (above ++ message :: below)) = true
  /-- A line with something else beside the word makes no difference, wherever it stands. -/
  sameLine : ∀ {front back : String}, '\n' ∉ front.toList ++ back.toList →
    ¬ (isBlankText front = true ∧ isBlankText back = true) → ∀ above below : List String,
      asksToLand (String.intercalate "\n" (above ++ (front ++ "AutoSubmit" ++ back) :: below)) =
        asksToLand (String.intercalate "\n" (above ++ below))

/-- The landing word counts as a line of its own. -/
theorem landingLaws (message : String) : LandingLaws message where
  asks_iff_holds := asksToLand_iff_holdsLandingWord
  asks_iff_line := asksToLand_iff_line
  furtherLines := by
    intro asks above below
    rw [asksToLand_intercalate, List.any_append, List.any_cons, asks, Bool.true_or, Bool.or_true]
  sameLine := by
    intro front back oneLine crowded above below
    rw [asksToLand_intercalate, asksToLand_intercalate, List.any_append, List.any_append,
      List.any_cons, asksToLand_eq_false_of_crowded oneLine crowded, Bool.false_or]

/-- A line with white space of all kinds around the word asks to land, with other lines around it
too. A line with a colon behind the word asks for nothing. -/
theorem landingLaws_of_white_space :
    asksToLand "\u2003AutoSubmit\t\r" = true ∧
      asksToLand "fix\n\u2003AutoSubmit\t\r\n\nmore" = true ∧
      asksToLand "fix\nAutoSubmit: maybe" = false := by
  have asks : asksToLand "\u2003AutoSubmit\t\r" = true :=
    (landingLaws _).asks_iff_line.mpr ⟨"\u2003AutoSubmit\t\r".toList, by decide, by decide⟩
  refine ⟨asks, (landingLaws _).furtherLines asks ["fix"] ["", "more"], ?_⟩
  have sameLine := @(landingLaws "").sameLine "" ": maybe" (by decide) (by decide) ["fix"] []
  exact sameLine.trans (by decide)

end ChangeGate.Review
