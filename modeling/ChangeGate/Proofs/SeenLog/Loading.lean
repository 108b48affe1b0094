import ChangeGate.Proofs.SeenLog

/-!
# Loading any text

A log is read line by line. It is loaded when every line that is not blank holds a ref, as the map
of the highest patchsets that its lines name, and so it does not matter how the same lines are laid
out. Otherwise the first line that holds none decides the failure.
-/

namespace ChangeGate.SeenLog

open ChangeGate.Review ChangeGate.Text

/-! ## Lines -/

/-- A text is written as some lines: a line is ended by `\n` or by `\r\n`, and the last one by the
end of the text. -/
inductive Written : List (List Char) → List Char → Prop where
  | last {line : List Char} (unbroken : '\n' ∉ line) : Written [line] line
  | broken {line rest : List Char} {lines : List (List Char)} (unbroken : '\n' ∉ line)
      (others : Written lines rest) : Written (line :: lines) (line ++ '\n' :: rest)
  | returned {line rest : List Char} {lines : List (List Char)} (unbroken : '\n' ∉ line)
      (others : Written lines rest) : Written (line :: lines) (line ++ '\r' :: '\n' :: rest)

/-- Every text is written as some lines. -/
theorem exists_written (text : List Char) : ∃ lines, Written lines text := by
  induction text with
  | nil => exact ⟨_, .last List.not_mem_nil⟩
  | cons c rest inductionHypothesis =>
      obtain ⟨lines, written⟩ := inductionHypothesis
      by_cases isBreak : c = '\n'
      · subst isBreak
        exact ⟨_, .broken List.not_mem_nil written⟩
      · have longer {line : List Char} (unbroken : '\n' ∉ line) : '\n' ∉ c :: line := by
          simpa [Ne.symm isBreak] using unbroken
        cases written with
        | last unbroken => exact ⟨_, .last (longer unbroken)⟩
        | broken unbroken others => exact ⟨_, .broken (longer unbroken) others⟩
        | returned unbroken others => exact ⟨_, .returned (longer unbroken) others⟩

/-- The ref that a line holds, apart from white space around it. -/
def refOn (line : List Char) : Except RefError ChangeRef :=
  ChangeRef.parse (String.ofList (trim line))

/-- A line of nothing but white space. -/
def IsBlankLine (line : List Char) : Prop :=
  ∀ c ∈ line, isBlank c = true

instance : DecidablePred IsBlankLine :=
  fun line => List.decidableBAll (fun c => isBlank c = true) line

/-- A line that is not blank and holds no ref. -/
structure Malformed (line : List Char) (cause : RefError) : Prop where
  notBlank : ¬ IsBlankLine line
  noRef : refOn line = .error cause

/-- Every line that is not blank holds a ref. -/
def AllHoldRefs (lines : List (List Char)) : Prop :=
  ∀ line ∈ lines, ¬ IsBlankLine line → ∃ ref, refOn line = .ok ref

theorem refOn_of_isBlankLine {line : List Char} (blank : IsBlankLine line) :
    refOn line = .error (.wrongShape "" 1) := by
  rw [refOn, trim_eq_nil_iff.mpr blank]
  rfl

/-- All lines hold refs that are not blank, or there is a first one that holds none. -/
theorem allHoldRefs_or_malformed (lines : List (List Char)) :
    AllHoldRefs lines ∨ ∃ before line after cause, lines = before ++ line :: after ∧
      AllHoldRefs before ∧ Malformed line cause := by
  induction lines with
  | nil => exact Or.inl fun _ member => absurd member List.not_mem_nil
  | cons first rest inductionHypothesis =>
      by_cases holds : ¬ IsBlankLine first → ∃ ref, refOn first = .ok ref
      · rcases inductionHypothesis with
          all | ⟨before, line, after, cause, rfl, allBefore, malformed⟩
        · exact Or.inl (List.forall_mem_cons.mpr ⟨holds, all⟩)
        · exact Or.inr ⟨first :: before, line, after, cause, rfl,
            List.forall_mem_cons.mpr ⟨holds, allBefore⟩, malformed⟩
      · obtain ⟨notBlank, noRef⟩ := Classical.not_imp.mp holds
        cases read : refOn first with
        | ok ref => exact absurd ⟨ref, read⟩ noRef
        | error cause =>
            exact Or.inr ⟨[], first, rest, cause, rfl,
              fun _ member => absurd member List.not_mem_nil, notBlank, read⟩

/-! ## Reading lines -/

/-- Lines that are the same apart from white space around them are read alike. -/
theorem readLines_congr {lines others : List (List Char)}
    (same : lines.map trim = others.map trim) (number : Nat) :
    readLines number lines = readLines number others := by
  induction lines generalizing others number with
  | nil => rw [List.map_eq_nil_iff.mp same.symm]
  | cons line rest inductionHypothesis =>
      cases others with
      | nil => cases same
      | cons other otherRest =>
          obtain ⟨sameFirst, sameRest⟩ := List.cons.inj same
          rw [readLines, readLines, sameFirst, inductionHypothesis sameRest]

/-- Splitting at the breaks gives the lines, apart from white space around them. -/
theorem Written.map_trim_splitOn {lines : List (List Char)} {text : List Char}
    (written : Written lines text) : (text.splitOn '\n').map trim = lines.map trim := by
  induction written with
  | last unbroken => rw [List.splitOn_eq_singleton unbroken]
  | broken unbroken _ inductionHypothesis =>
      rw [List.splitOn_append_cons_self_of_not_mem unbroken, List.map_cons, List.map_cons,
        inductionHypothesis]
  | @returned line rest lines unbroken _ inductionHypothesis =>
      have isBlank : IsBlankLine ['\r'] := by decide
      have unbrokenReturned : '\n' ∉ line ++ ['\r'] := by simpa using unbroken
      have trimmed : trim (line ++ ['\r']) = trim line :=
        @trim_append_append [] _ line (fun _ member => absurd member List.not_mem_nil) isBlank
      rw [List.append_cons, List.splitOn_append_cons_self_of_not_mem unbrokenReturned,
        List.map_cons, List.map_cons, trimmed, inductionHypothesis]

section
variable {line : List Char}

theorem readLines_cons_of_isBlankLine (blank : IsBlankLine line) (number : Nat)
    (rest : List (List Char)) : readLines number (line :: rest) = readLines (number + 1) rest := by
  rw [readLines, trim_eq_nil_iff.mpr blank]
  rfl

/-- A line that is not blank is read as a ref. -/
theorem readLines_cons_of_notBlank (notBlank : ¬ IsBlankLine line) (number : Nat)
    (rest : List (List Char)) :
    readLines number (line :: rest) =
      match refOn line with
      | .error cause => .error (.logLine number cause)
      | .ok ref => (readLines (number + 1) rest).map (ref :: ·) := by
  have present : (trim line).isEmpty = false :=
    List.isEmpty_eq_false_iff.mpr (mt trim_eq_nil_iff.mp notBlank)
  rw [readLines, present, if_neg Bool.false_ne_true]
  rfl

end

/-- Where every line that is not blank holds a ref, these are what is read. -/
theorem readLines_of_allHoldRefs {lines : List (List Char)} (all : AllHoldRefs lines)
    (number : Nat) :
    readLines number lines = .ok (lines.filterMap fun line => (refOn line).toOption) := by
  induction lines generalizing number with
  | nil => rfl
  | cons line rest inductionHypothesis =>
      obtain ⟨holds, allRest⟩ := List.forall_mem_cons.mp all
      rw [List.filterMap_cons]
      by_cases blank : IsBlankLine line
      · rw [readLines_cons_of_isBlankLine blank, inductionHypothesis allRest,
          refOn_of_isBlankLine blank]
        rfl
      · obtain ⟨ref, isRef⟩ := holds blank
        rw [readLines_cons_of_notBlank blank, inductionHypothesis allRest, isRef]
        rfl

/-- The first line that holds none stops reading, under its own number. -/
theorem readLines_of_malformed {before : List (List Char)} {line : List Char} {cause : RefError}
    (all : AllHoldRefs before) (malformed : Malformed line cause) (after : List (List Char))
    (number : Nat) :
    readLines number (before ++ line :: after) =
      .error (.logLine (number + before.length) cause) := by
  induction before generalizing number with
  | nil =>
      rw [List.nil_append, readLines_cons_of_notBlank malformed.notBlank, malformed.noRef]
      rfl
  | cons first rest inductionHypothesis =>
      obtain ⟨holds, allRest⟩ := List.forall_mem_cons.mp all
      have counted : number + (first :: rest).length = number + 1 + rest.length := by
        rw [List.length_cons]
        omega
      rw [List.cons_append, counted]
      by_cases blank : IsBlankLine first
      · rw [readLines_cons_of_isBlankLine blank, inductionHypothesis allRest]
      · obtain ⟨ref, isRef⟩ := holds blank
        rw [readLines_cons_of_notBlank blank, inductionHypothesis allRest, isRef]
        rfl

theorem load_of_written {text : String} {lines : List (List Char)}
    (written : Written lines text.toList) :
    load (.ok text.toUTF8) = (readLines 1 lines).map Patchsets.highest := by
  rw [load, fromUTF8?_toUTF8]
  exact congrArg (·.map Patchsets.highest) (readLines_congr written.map_trim_splitOn 1)

/-- Where every line that is not blank holds a ref, the log is loaded. -/
theorem load_of_allHoldRefs {text : String} {lines : List (List Char)}
    (written : Written lines text.toList) (all : AllHoldRefs lines) :
    load (.ok text.toUTF8) =
      .ok (Patchsets.highest (lines.filterMap fun line => (refOn line).toOption)) := by
  rw [load_of_written written, readLines_of_allHoldRefs all]
  rfl

/-- Otherwise the first line that holds none decides the failure. -/
theorem load_of_malformed {text : String} {before after : List (List Char)} {line : List Char}
    {cause : RefError} (written : Written (before ++ line :: after) text.toList)
    (all : AllHoldRefs before) (malformed : Malformed line cause) :
    load (.ok text.toUTF8) = .error (.logLine (before.length + 1) cause) := by
  rw [load_of_written written, readLines_of_malformed all malformed, Nat.add_comm]
  rfl

/-- A log is loaded only where every line that is not blank holds a ref. -/
theorem allHoldRefs_of_load {text : String} {lines : List (List Char)} {seen : Patchsets}
    (written : Written lines text.toList) (loaded : load (.ok text.toUTF8) = .ok seen) :
    AllHoldRefs lines := by
  rcases allHoldRefs_or_malformed lines with
    all | ⟨before, line, after, cause, rfl, all, malformed⟩
  · exact all
  · rw [load_of_malformed written all malformed] at loaded
    cases loaded

/-! ## Other layouts -/

/-- The same lines laid out in another way: in another order, with a blank line put in, with a line
repeated, or with white space around a line, any number of times and also the other way around. -/
inductive Reworked : List (List Char) → List (List Char) → Prop where
  | reordered {lines others : List (List Char)} (same : lines.Perm others) : Reworked lines others
  | blankLine {line : List Char} (blank : IsBlankLine line) (before after : List (List Char)) :
      Reworked (before ++ after) (before ++ line :: after)
  | repeated {line : List Char} {before after : List (List Char)}
      (member : line ∈ before ++ after) : Reworked (before ++ after) (before ++ line :: after)
  | padded {front back : List Char} (frontBlank : IsBlankLine front)
      (backBlank : IsBlankLine back) (line : List Char) (before after : List (List Char)) :
      Reworked (before ++ line :: after) (before ++ (front ++ line ++ back) :: after)
  | symm {lines others : List (List Char)} (reworked : Reworked lines others) :
      Reworked others lines
  | trans {lines others last : List (List Char)} (reworked : Reworked lines others)
      (further : Reworked others last) : Reworked lines last

/-- Apart from blank lines the same texts stand on the lines of both layouts. -/
theorem Reworked.mem_map_trim_iff {lines others : List (List Char)}
    (reworked : Reworked lines others) {entry : List Char} (present : entry ≠ []) :
    entry ∈ lines.map trim ↔ entry ∈ others.map trim := by
  induction reworked with
  | reordered same => exact (same.map trim).mem_iff
  | blankLine blank before after =>
      simp [trim_eq_nil_iff.mpr blank, present]
  | @repeated line before after member =>
      have listed : trim line ∈ (before ++ after).map trim := List.mem_map_of_mem member
      constructor
      · intro isEntry
        simp only [List.map_append, List.map_cons, List.mem_append, List.mem_cons] at isEntry ⊢
        exact isEntry.imp_right Or.inr
      · intro isEntry
        simp only [List.map_append, List.map_cons, List.mem_append, List.mem_cons]
          at isEntry listed ⊢
        rcases isEntry with inBefore | rfl | inAfter
        · exact Or.inl inBefore
        · exact listed
        · exact Or.inr inAfter
  | padded frontBlank backBlank line before after =>
      rw [List.map_append, List.map_append, List.map_cons, List.map_cons,
        trim_append_append line frontBlank backBlank]
  | symm _ inductionHypothesis => exact inductionHypothesis.symm
  | trans _ _ first further => exact first.trans further

/-- Whether all lines hold refs is told by the texts on them. -/
theorem allHoldRefs_iff {lines : List (List Char)} :
    AllHoldRefs lines ↔ ∀ entry ∈ lines.map trim, entry ≠ [] →
      ∃ ref, ChangeRef.parse (String.ofList entry) = .ok ref := by
  simp only [AllHoldRefs, IsBlankLine, ← trim_eq_nil_iff, refOn, List.forall_mem_map, ne_eq]

/-- So is which refs the lines hold. -/
theorem exists_refOn_iff {lines : List (List Char)} {ref : ChangeRef} :
    (∃ line ∈ lines, refOn line = .ok ref) ↔
      ∃ entry ∈ lines.map trim, entry ≠ [] ∧ ChangeRef.parse (String.ofList entry) = .ok ref := by
  constructor
  · rintro ⟨line, member, holds⟩
    refine ⟨trim line, List.mem_map_of_mem member, ?_, holds⟩
    intro blank
    rw [refOn_of_isBlankLine (trim_eq_nil_iff.mp blank)] at holds
    cases holds
  · rintro ⟨_, isEntry, -, holds⟩
    obtain ⟨line, member, rfl⟩ := List.mem_map.mp isEntry
    exact ⟨line, member, holds⟩

section
variable {lines others : List (List Char)}

theorem Reworked.allHoldRefs (reworked : Reworked lines others) (all : AllHoldRefs lines) :
    AllHoldRefs others :=
  allHoldRefs_iff.mpr fun entry isEntry present =>
    allHoldRefs_iff.mp all entry ((reworked.mem_map_trim_iff present).mpr isEntry) present

/-- Both layouts hold the same refs. -/
theorem Reworked.exists_refOn_iff (reworked : Reworked lines others) {ref : ChangeRef} :
    (∃ line ∈ lines, refOn line = .ok ref) ↔ ∃ line ∈ others, refOn line = .ok ref := by
  rw [SeenLog.exists_refOn_iff, SeenLog.exists_refOn_iff]
  apply exists_congr
  intro entry
  constructor
  · rintro ⟨isEntry, present, holds⟩
    exact ⟨(reworked.mem_map_trim_iff present).mp isEntry, present, holds⟩
  · rintro ⟨isEntry, present, holds⟩
    exact ⟨(reworked.mem_map_trim_iff present).mpr isEntry, present, holds⟩

theorem mem_filterMap_refOn_iff {ref : ChangeRef} :
    ref ∈ lines.filterMap (fun line => (refOn line).toOption) ↔
      ∃ line ∈ lines, refOn line = .ok ref := by
  have toOption_iff (line : List Char) :
      (refOn line).toOption = some ref ↔ refOn line = .ok ref := by
    cases refOn line <;> simp [Except.toOption]
  simp only [List.mem_filterMap, toOption_iff]

/-- The highest patchsets on the lines of both layouts are the same. -/
theorem Reworked.highest_eq (reworked : Reworked lines others) :
    Patchsets.highest (others.filterMap fun line => (refOn line).toOption) =
      Patchsets.highest (lines.filterMap fun line => (refOn line).toOption) := by
  apply Patchsets.highest_eq_of_mem_iff
  intro ref
  rw [mem_filterMap_refOn_iff, mem_filterMap_refOn_iff, reworked.exists_refOn_iff]

end

/-! ## What is loaded -/

/-- What loading a text of some lines gives. -/
structure LoadsAs (lines : List (List Char)) (loaded : Except Failure Patchsets) : Prop where
  /-- It is loaded exactly when every line that is not blank holds a ref. -/
  loaded_iff : (∃ seen, loaded = .ok seen) ↔
    ∀ line ∈ lines, ¬ IsBlankLine line → ∃ ref, refOn line = .ok ref
  /-- What is loaded sends each number to the highest patchset of its lines. -/
  highest : ∀ {seen}, loaded = .ok seen → ∀ number patchset,
    seen[number]? = some patchset ↔
      (∃ line ∈ lines, refOn line = .ok ⟨number, patchset⟩) ∧
        ∀ line ∈ lines, ∀ other, refOn line = .ok ⟨number, other⟩ → other ≤ patchset
  /-- Any other layout of the same lines, with whatever line ends, is loaded as the same. -/
  reworked : ∀ {seen others} {other : String}, loaded = .ok seen → Reworked lines others →
    Written others other.toList → load (.ok other.toUTF8) = .ok seen
  /-- With a malformed line, the first one of them decides the failure, under its number among all
  lines and with the cause that it is no ref. -/
  malformed : ∀ {line cause}, line ∈ lines → Malformed line cause →
    ∃ before first after reason, lines = before ++ first :: after ∧ AllHoldRefs before ∧
      Malformed first reason ∧ loaded = .error (.logLine (before.length + 1) reason)

/-- Every text is written as some lines, and is loaded as they say. -/
theorem load_follows_lines (text : String) :
    (∃ lines, Written lines text.toList) ∧
      ∀ lines, Written lines text.toList → LoadsAs lines (load (.ok text.toUTF8)) := by
  refine ⟨exists_written text.toList, ?_⟩
  intro lines written
  constructor
  case loaded_iff =>
    constructor
    · rintro ⟨seen, loaded⟩
      exact allHoldRefs_of_load written loaded
    · intro all
      exact ⟨_, load_of_allHoldRefs written all⟩
  case highest =>
    intro seen loaded number patchset
    rw [load_of_allHoldRefs written (allHoldRefs_of_load written loaded)] at loaded
    rw [← Except.ok.inj loaded, Patchsets.getElem?_highest_eq_some_iff]
    simp only [mem_filterMap_refOn_iff]
    refine and_congr_right fun _ => ⟨?_, ?_⟩
    · intro bound line member other holds
      exact bound other ⟨line, member, holds⟩
    · rintro bound other ⟨line, member, holds⟩
      exact bound line member other holds
  case reworked =>
    intro seen others other loaded reworked otherWritten
    have all := allHoldRefs_of_load written loaded
    rw [load_of_allHoldRefs otherWritten (reworked.allHoldRefs all), reworked.highest_eq,
      ← load_of_allHoldRefs written all, loaded]
  case malformed =>
    intro line cause member malformed
    rcases allHoldRefs_or_malformed lines with
      all | ⟨before, first, after, reason, rfl, all, isFirst⟩
    · obtain ⟨ref, holds⟩ := all line member malformed.notBlank
      rw [malformed.noRef] at holds
      cases holds
    · exact ⟨before, first, after, reason, rfl, all, isFirst,
        load_of_malformed written all isFirst⟩

/-- A log of one change at two patchsets is loaded as the later one, and so is another layout of it
with other line ends, a blank line, white space and a line repeated. With a line that holds no ref
after a blank line it is not loaded. -/
theorem load_follows_lines_of_layouts :
    (∃ seen, load (.ok "a/b/c/7/2\na/b/c/7/1".toUTF8) = .ok seen ∧ seen[(7 : UInt64)]? = some 2 ∧
      load (.ok " a/b/c/7/1\t\r\n\r\na/b/c/7/2\na/b/c/7/2".toUTF8) = .ok seen) ∧
    load (.ok " \r\n7/2".toUTF8) = .error (.logLine 2 (.wrongShape "7/2" 2)) := by
  let late := "a/b/c/7/2".toList
  let early := "a/b/c/7/1".toList
  let padded := [' '] ++ early ++ ['\t']
  have holdsLate : refOn late = .ok ⟨7, 2⟩ := by decide
  have holdsEarly : refOn early = .ok ⟨7, 1⟩ := by decide
  constructor
  · have written : Written [late, early] "a/b/c/7/2\na/b/c/7/1".toList :=
      .broken (by decide) (.last (by decide))
    have laws := (load_follows_lines _).2 _ written
    have all : AllHoldRefs [late, early] := by
      simp [AllHoldRefs, holdsLate, holdsEarly]
    obtain ⟨seen, loaded⟩ := laws.loaded_iff.mpr all
    refine ⟨seen, loaded, ?_, ?_⟩
    · refine (laws.highest loaded 7 2).mpr ⟨⟨late, List.mem_cons_self, holdsLate⟩, ?_⟩
      simp [holdsLate, holdsEarly]
    · have reworked : Reworked [late, early] [padded, [], late, late] := by
        have swapped : Reworked [late, early] [early, late] := .reordered (List.Perm.swap _ _ [])
        have frontBlank : IsBlankLine [' '] := by decide
        have backBlank : IsBlankLine ['\t'] := by decide
        have around : Reworked [early, late] [padded, late] :=
          .padded frontBlank backBlank early [] [late]
        have between : Reworked [padded, late] [padded, [], late] :=
          .blankLine (by decide) [padded] [late]
        have again : Reworked [padded, [], late] [padded, [], late, late] :=
          @Reworked.repeated late [padded, []] [late] (by simp)
        exact swapped.trans (around.trans (between.trans again))
      exact laws.reworked loaded reworked
        (.returned (by decide) (.returned (by decide) (.broken (by decide) (.last (by decide)))))
  · have written : Written [" ".toList, "7/2".toList] " \r\n7/2".toList :=
      .returned (by decide) (.last (by decide))
    have malformed : Malformed "7/2".toList (.wrongShape "7/2" 2) := ⟨by decide, by decide⟩
    obtain ⟨before, first, after, reason, cut, -, isFirst, fails⟩ :=
      ((load_follows_lines _).2 _ written).malformed (by simp) malformed
    -- The blank line is not malformed, so the line after it is the first one that is.
    rcases List.cons_eq_append_iff.mp cut with ⟨rfl, isBlank⟩ | ⟨others, rfl, rest⟩
    · rw [(List.cons.inj isBlank).1] at isFirst
      exact absurd (by decide) isFirst.notBlank
    · rcases List.singleton_eq_append_iff.mp rest with ⟨rfl, isLast⟩ | ⟨-, none⟩
      · rw [(List.cons.inj isLast).1] at isFirst
        rw [fails, Except.error.inj (isFirst.noRef.symm.trans malformed.noRef)]
        rfl
      · cases none

end ChangeGate.SeenLog
