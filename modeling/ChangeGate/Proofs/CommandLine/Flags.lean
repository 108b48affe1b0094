import ChangeGate.CommandLine.Arguments
import ChangeGate.Text.Search
import Mathlib.Data.List.TakeWhile

/-!
# Values in the arguments

What the arguments give an option, told without reading them: the value behind its long name. Where
the arguments are read, an option that has no letter is read with that value.
-/

namespace ChangeGate.CommandLine

open ChangeGate.Text

/-! ## Without reading -/

/-- The value that an argument alone gives an option. It stands behind the long name and an equals
sign. -/
def valueIn? (name argument : String) : Option String :=
  (textAfter? ("--" ++ name ++ "=").toList argument.toList).map String.ofList

/-- The value that some arguments give an option: the one in the first argument that holds one, or
the argument that follows the long name. -/
def flag? (name : String) : List String → Option String
  | [] => none
  | argument :: rest =>
      if argument = "--" ++ name then rest.head? else (valueIn? name argument).or (flag? name rest)

section
variable {name argument : String}

theorem eq_long_iff : argument = "--" ++ name ↔ argument.toList = '-' :: '-' :: name.toList := by
  rw [← String.toList_inj]
  simp

theorem valueIn?_eq_some_iff {value : String} :
    valueIn? name argument = some value ↔
      argument.toList = '-' :: '-' :: (name.toList ++ '=' :: value.toList) := by
  rw [valueIn?, Option.map_eq_some_iff]
  constructor
  · rintro ⟨rest, found, rfl⟩
    simpa using textAfter?_eq_some_iff.mp found
  · intro long
    refine ⟨value.toList, textAfter?_eq_some_iff.mpr ?_, String.ofList_toList⟩
    simpa using long

/-- An argument says nothing of an option. -/
structure IsSilent (name argument : String) : Prop where
  other : argument ≠ "--" ++ name
  none : valueIn? name argument = none

theorem flag?_cons_of_isSilent (silent : IsSilent name argument) (rest : List String) :
    flag? name (argument :: rest) = flag? name rest := by
  rw [flag?, if_neg silent.other, silent.none, Option.none_or]

/-- An argument that does not start with two hyphens says nothing of options. -/
theorem isSilent_of_not_long (notLong : ∀ text, argument.toList ≠ '-' :: '-' :: text) :
    IsSilent name argument where
  other same := notLong _ (eq_long_iff.mp same)
  none := by
    rw [Option.eq_none_iff_forall_ne_some]
    intro value found
    exact notLong _ (valueIn?_eq_some_iff.mp found)

/-- A value says nothing of options. -/
theorem isSilent_of_isValue (value : isValue argument.toList = true) : IsSilent name argument := by
  apply isSilent_of_not_long
  intro text long
  rw [long] at value
  exact absurd value (by simp [isValue])

/-- Two hyphens alone say nothing of options. -/
theorem isSilent_hyphens (present : name ≠ "") : IsSilent name "--" where
  other same := by
    have empty : name.toList = [] := by simpa using eq_long_iff.mp same
    exact present (String.toList_eq_nil_iff.mp empty)
  none := by
    rw [Option.eq_none_iff_forall_ne_some]
    intro value found
    simpa using valueIn?_eq_some_iff.mp found

/-- An argument with a long name says nothing of options with other names. -/
theorem isSilent_of_takeWhile {text : List Char} (noEquals : '=' ∉ name.toList)
    (long : argument.toList = '-' :: '-' :: text)
    (other : text.takeWhile (· ≠ '=') ≠ name.toList) : IsSilent name argument := by
  have kept : ∀ c ∈ name.toList, decide (c ≠ '=') = true := by
    intro c member
    rw [decide_eq_true_eq]
    rintro rfl
    exact noEquals member
  constructor
  · intro same
    obtain rfl : text = name.toList := by simpa [long] using eq_long_iff.mp same
    exact other (List.takeWhile_eq_self_iff.mpr kept)
  · rw [Option.eq_none_iff_forall_ne_some]
    intro value found
    obtain rfl : text = name.toList ++ '=' :: value.toList := by
      simpa [long] using valueIn?_eq_some_iff.mp found
    rw [List.takeWhile_append_of_pos kept] at other
    simp at other

end

/-! ## Reading an argument -/

/-- An option is known by nothing but its long name, with a value, or is not known. -/
structure IsTold (known : List OptionName) (wanted : OptionName) : Prop where
  letter : wanted.letter = none
  takesValue : wanted.takesValue = true
  present : wanted.name ≠ ""
  noEquals : '=' ∉ wanted.name.toList
  alone : ∀ option ∈ known, option.name = wanted.name → option = wanted

variable {known : List OptionName} {given next : Given} {wanted option : OptionName}
  {value argument : String} {text : List Char} {reading : Reading}

theorem value?_append (given : Given) (wanted : OptionName) (name value : String) :
    Given.value? (given ++ [(name, value)]) wanted =
      (given.value? wanted).or (if name = wanted.name then some value else none) := by
  rw [Given.value?, Given.value?, List.find?_append, Option.map_or]
  congr 1
  split
  · next same => simp [same]
  · next other => simp [other]

/-- Noting an option gives it its value, or is followed at once. -/
theorem note_cases (noted : note given option value = .ok reading) :
    (∃ command, reading = .atOnce command ∧ (command = .showHelp ∨ command = .showVersion)) ∨
      reading = .options (given ++ [(option.name, value)]) := by
  rw [note] at noted
  split at noted
  · exact .inl ⟨_, (Except.ok.inj noted).symm, .inl rfl⟩
  · split at noted
    · exact .inl ⟨_, (Except.ok.inj noted).symm, .inr rfl⟩
    · split at noted
      · cases noted
      · split at noted
        · cases noted
        · exact .inr (Except.ok.inj noted).symm

/-- Behind the long name there is nothing, or an equals sign. -/
theorem long_cases (text : List Char) :
    text = text.takeWhile (· ≠ '=') ∨
      ∃ value, text.drop (text.takeWhile (· ≠ '=')).length = '=' :: value ∧
        text = text.takeWhile (· ≠ '=') ++ '=' :: value := by
  induction text with
  | nil => exact .inl rfl
  | cons c rest inductionHypothesis =>
      by_cases equals : c = '='
      · subst equals
        exact .inr ⟨rest, by simp⟩
      · rw [List.takeWhile_cons_of_pos (by simpa using equals)]
        rcases inductionHypothesis with alone | ⟨value, behind, whole⟩
        · exact .inl (congrArg (c :: ·) alone)
        · exact .inr ⟨value, by simpa using behind, congrArg (c :: ·) whole⟩

/-- What an argument with a long name is read as. -/
theorem readLong_cases (read : readLong known given text = .ok reading) :
    ∃ option ∈ known, text.takeWhile (· ≠ '=') = option.name.toList ∧
      ((∃ value, text = option.name.toList ++ '=' :: value ∧
          note given option (String.ofList value) = .ok reading) ∨
        (text = option.name.toList ∧ reading = .waiting given option) ∨
        option.takesValue = false ∧ note given option "" = .ok reading) := by
  simp only [readLong] at read
  split at read
  · cases read
  · next option found =>
      have isKnown := List.mem_of_find?_eq_some found
      have isNamed := List.find?_some found
      have named : text.takeWhile (· ≠ '=') = option.name.toList := (of_decide_eq_true isNamed).symm
      refine ⟨option, isKnown, named, ?_⟩
      rcases long_cases text with alone | ⟨value, behind, whole⟩
      · have nothing : text.drop (text.takeWhile (· ≠ '=')).length = [] := by
          rw [← alone, List.drop_length]
        rw [nothing] at read
        cases takes : option.takesValue with
        | true =>
            rw [takes] at read
            exact .inr (.inl ⟨alone.trans named, (Except.ok.inj read).symm⟩)
        | false =>
            rw [takes] at read
            exact .inr (.inr ⟨rfl, read⟩)
      · rw [behind] at read
        cases takes : option.takesValue with
        | true =>
            rw [takes] at read
            exact .inl ⟨value, named ▸ whole, read⟩
        | false =>
            rw [takes] at read
            cases read

/-- What an argument that is read says of an option, and what is read. -/
def Follows (wanted : OptionName) (argument : String) (given : Given) : Reading → Prop
  | .atOnce command => command = .showHelp ∨ command = .showVersion
  | .options next =>
      argument ≠ "--" ++ wanted.name ∧
        next.value? wanted = (given.value? wanted).or (valueIn? wanted.name argument)
  | .waiting next option =>
      valueIn? wanted.name argument = none ∧ next.value? wanted = given.value? wanted ∧
        (argument = "--" ++ wanted.name ↔ option.name = wanted.name)

/-- An argument that says nothing of an option is read without a value for it. -/
theorem follows_of_note (silent : IsSilent wanted.name argument)
    (other : option.name ≠ wanted.name) (noted : note given option value = .ok reading) :
    Follows wanted argument given reading := by
  rcases note_cases noted with ⟨command, rfl, early⟩ | rfl
  · exact early
  · refine ⟨silent.other, ?_⟩
    rw [value?_append, if_neg other, silent.none]

/-- Letters are no long names. -/
theorem follows_of_readLetters (told : IsTold known wanted)
    (silent : IsSilent wanted.name argument) {letters : List Char}
    (read : readLetters known given letters = .ok reading) :
    Follows wanted argument given reading := by
  induction letters generalizing given with
  | nil =>
      obtain rfl := Except.ok.inj read
      exact ⟨silent.other, by rw [silent.none, Option.or_none]⟩
  | cons letter rest inductionHypothesis =>
      rw [readLetters] at read
      split at read
      · cases read
      · next option found =>
          have other : option.name ≠ wanted.name := by
            intro same
            have lettered : option.letter = some letter := by simpa using List.find?_some found
            rw [told.alone option (List.mem_of_find?_eq_some found) same, told.letter] at lettered
            cases lettered
          split at read
          · split at read
            · obtain rfl := Except.ok.inj read
              exact ⟨silent.none, rfl, by simp [silent.other, other]⟩
            · exact follows_of_note silent other read
            · exact follows_of_note silent other read
          · split at read
            · next next noted =>
                obtain ⟨-, same⟩ := follows_of_note silent other noted
                have later := inductionHypothesis read
                rw [silent.none, Option.or_none] at same
                cases reading with
                | atOnce command => exact later
                | options last => simpa [Follows, same] using later
                | waiting last option => simpa [Follows, same] using later
            · exact follows_of_note silent other read

/-- An argument with a long name says what is behind the name. -/
theorem follows_of_readLong (told : IsTold known wanted)
    (long : argument.toList = '-' :: '-' :: text) (read : readLong known given text = .ok reading) :
    Follows wanted argument given reading := by
  obtain ⟨option, isKnown, named, cases⟩ := readLong_cases read
  by_cases same : option.name = wanted.name
  · obtain rfl := told.alone option isKnown same
    rcases cases with ⟨value, whole, noted⟩ | ⟨whole, rfl⟩ | ⟨flag, -⟩
    · have said : valueIn? option.name argument = some (String.ofList value) := by
        rw [valueIn?_eq_some_iff, long, whole, String.toList_ofList]
      rcases note_cases noted with ⟨command, rfl, early⟩ | rfl
      · exact early
      · refine ⟨?_, ?_⟩
        · rw [Ne, eq_long_iff, long, whole]
          simp
        · rw [value?_append, if_pos rfl, said]
    · have alone : argument = "--" ++ option.name := by
        rw [eq_long_iff, long, whole]
      have nothing : valueIn? option.name argument = none := by
        rw [Option.eq_none_iff_forall_ne_some]
        intro value found
        rw [valueIn?_eq_some_iff, long, whole] at found
        simp at found
      exact ⟨nothing, rfl, by simp [alone]⟩
    · rw [told.takesValue] at flag
      cases flag
  · have silent : IsSilent wanted.name argument := by
      apply isSilent_of_takeWhile told.noEquals long
      rw [named]
      exact fun equal => same (String.toList_inj.mp equal)
    rcases cases with ⟨value, -, noted⟩ | ⟨-, rfl⟩ | ⟨-, noted⟩
    · exact follows_of_note silent same noted
    · exact ⟨silent.none, rfl, by simp [silent.other, same]⟩
    · exact follows_of_note silent same noted

/-- An argument is read by its long name if it starts with two hyphens, and else by its letters. -/
theorem readOption_cases (read : readOption known given argument.toList = .ok reading) :
    (∃ text, argument.toList = '-' :: '-' :: text ∧ readLong known given text = .ok reading) ∨
      (∀ text, argument.toList ≠ '-' :: '-' :: text) ∧
        readLetters known given (argument.toList.drop 1) = .ok reading := by
  rw [readOption.eq_def] at read
  split at read
  · next text long => exact .inl ⟨text, long, read⟩
  · next notLong => exact .inr ⟨notLong, read⟩

theorem follows_of_readOption (told : IsTold known wanted)
    (read : readOption known given argument.toList = .ok reading) :
    Follows wanted argument given reading := by
  rcases readOption_cases read with ⟨text, long, read⟩ | ⟨notLong, read⟩
  · exact follows_of_readLong told long read
  · exact follows_of_readLetters told (isSilent_of_not_long notLong) read

/-- An argument that is read says nothing of an option that is not known. -/
theorem isSilent_of_readOption (noEquals : '=' ∉ wanted.name.toList)
    (absent : ∀ option ∈ known, option.name ≠ wanted.name)
    (read : readOption known given argument.toList = .ok reading) :
    IsSilent wanted.name argument := by
  rcases readOption_cases read with ⟨text, long, read⟩ | ⟨notLong, -⟩
  · obtain ⟨option, isKnown, named, -⟩ := readLong_cases read
    apply isSilent_of_takeWhile noEquals long
    rw [named]
    exact fun equal => absent option isKnown (String.toList_inj.mp equal)
  · exact isSilent_of_not_long notLong

/-! ## Reading arguments -/

/-- How the arguments of a place are read: one by one, to the first that is no option, or to one that
is followed at once. -/
inductive Scans (known : List OptionName) : Reading → List String → Scanned → Prop where
  | atOnce (command : Command) (arguments : List String) :
      Scans known (.atOnce command) arguments (.inr command)
  | nil (given : Given) : Scans known (.options given) [] (.inl (given, []))
  | stop (given : Given) {argument : String} (rest : List String)
      (value : isValue argument.toList = true) :
      Scans known (.options given) (argument :: rest) (.inl (given, argument :: rest))
  | hyphens (given : Given) : Scans known (.options given) ["--"] (.inl (given, []))
  | option {given : Given} {argument : String} {rest : List String} {next : Reading}
      {result : Scanned} (read : readOption known given argument.toList = .ok next)
      (others : Scans known next rest result) :
      Scans known (.options given) (argument :: rest) result
  | awaited {given : Given} {option : OptionName} {argument : String} {rest : List String}
      {next : Reading} {result : Scanned} (value : isValue argument.toList = true)
      (noted : note given option argument = .ok next) (others : Scans known next rest result) :
      Scans known (.waiting given option) (argument :: rest) result

theorem scans_of_scan {arguments : List String} {result : Scanned}
    (scanned : scan known reading arguments = .ok result) :
    Scans known reading arguments result := by
  induction arguments generalizing reading with
  | nil =>
      cases reading with
      | atOnce command =>
          obtain rfl := Except.ok.inj scanned
          exact .atOnce command []
      | options given =>
          obtain rfl := Except.ok.inj scanned
          exact .nil given
      | waiting given option => cases scanned
  | cons argument rest inductionHypothesis =>
      cases reading with
      | atOnce command =>
          obtain rfl := Except.ok.inj scanned
          exact .atOnce command (argument :: rest)
      | options given =>
          rw [scan.eq_def] at scanned
          simp only at scanned
          split at scanned
          · next value =>
              obtain rfl := Except.ok.inj scanned
              exact .stop given rest value
          · split at scanned
            · next hyphens =>
                subst hyphens
                cases rest with
                | nil =>
                    obtain rfl := Except.ok.inj scanned
                    exact .hyphens given
                | cons extra others => cases scanned
            · cases read : readOption known given argument.toList with
              | error cause =>
                  rw [read] at scanned
                  cases scanned
              | ok next =>
                  rw [read] at scanned
                  exact .option read (inductionHypothesis scanned)
      | waiting given option =>
          rw [scan.eq_def] at scanned
          simp only at scanned
          split at scanned
          · next value =>
              cases noted : note given option argument with
              | error cause =>
                  rw [noted] at scanned
                  cases scanned
              | ok next =>
                  rw [noted] at scanned
                  exact .awaited value noted (inductionHypothesis scanned)
          · cases scanned

namespace Scans

variable {arguments left : List String} {own : Given} {result : Scanned} {command : Command}

/-- The arguments of a place say nothing of an option that is not known there. -/
theorem flag?_of_absent (scans : Scans known reading arguments result)
    (ends : result = .inl (own, left)) (noEquals : '=' ∉ wanted.name.toList)
    (present : wanted.name ≠ "") (absent : ∀ option ∈ known, option.name ≠ wanted.name) :
    flag? wanted.name arguments = flag? wanted.name left := by
  induction scans with
  | atOnce => cases ends
  | nil =>
      cases ends
      rfl
  | stop =>
      cases ends
      rfl
  | hyphens =>
      cases ends
      exact flag?_cons_of_isSilent (isSilent_hyphens present) []
  | option read _ inductionHypothesis =>
      rw [flag?_cons_of_isSilent (isSilent_of_readOption noEquals absent read),
        inductionHypothesis ends]
  | awaited value _ _ inductionHypothesis =>
      rw [flag?_cons_of_isSilent (isSilent_of_isValue value), inductionHypothesis ends]

/-- Nothing but help and the version is followed at once. -/
theorem early (scans : Scans known reading arguments result) (ends : result = .inr command)
    (told : IsTold known wanted)
    (start : ∀ other, reading = .atOnce other → other = .showHelp ∨ other = .showVersion) :
    command = .showHelp ∨ command = .showVersion := by
  induction scans with
  | atOnce other =>
      obtain rfl := Sum.inr.inj ends
      exact start other rfl
  | nil => cases ends
  | stop => cases ends
  | hyphens => cases ends
  | option read _ inductionHypothesis =>
      apply inductionHypothesis ends
      rintro other rfl
      exact follows_of_readOption told read
  | awaited _ noted _ inductionHypothesis =>
      apply inductionHypothesis ends
      rintro other rfl
      rcases note_cases noted with ⟨command, same, early⟩ | other
      · obtain rfl := Reading.atOnce.inj same
        exact early
      · cases other

end Scans

/-- What the arguments that are still to come give an option, where they are read to the end. -/
def Settles (wanted : OptionName) (own : Given) (arguments : List String) : Reading → Prop
  | .atOnce _ => False
  | .options given =>
      own.value? wanted = (given.value? wanted).or (flag? wanted.name arguments)
  | .waiting given option => ∃ value rest, arguments = value :: rest ∧
      isValue value.toList = true ∧
      own.value? wanted =
        ((given.value? wanted).or (if option.name = wanted.name then some value else none)).or
          (flag? wanted.name rest)

/-- An argument that is read settles what it says. -/
theorem Settles.cons {own : Given} {rest : List String} {next : Reading}
    (follows : Follows wanted argument given next) (settles : Settles wanted own rest next) :
    Settles wanted own (argument :: rest) (.options given) := by
  cases next with
  | atOnce command => exact settles.elim
  | options next =>
      obtain ⟨other, said⟩ := follows
      rw [Settles] at settles ⊢
      rw [settles, said, flag?, if_neg other, Option.or_assoc]
  | waiting next option =>
      obtain ⟨nothing, same, alone⟩ := follows
      obtain ⟨value, others, rfl, isValue, settled⟩ := settles
      rw [Settles, settled, same, flag?, List.head?_cons, nothing, Option.none_or,
        flag?_cons_of_isSilent (isSilent_of_isValue isValue)]
      by_cases named : option.name = wanted.name
      · rw [if_pos named, if_pos (alone.mpr named), Option.or_assoc, Option.some_or]
      · rw [if_neg named, if_neg (mt alone.mp named), Option.or_none]

/-- By reading the arguments to their end, an option gets the value that they give it. -/
theorem Scans.settles {arguments : List String} {own : Given} {result : Scanned}
    (scans : Scans known reading arguments result) (ends : result = .inl (own, []))
    (told : IsTold known wanted) : Settles wanted own arguments reading := by
  induction scans with
  | atOnce => cases ends
  | nil =>
      cases ends
      exact (Option.or_none ..).symm
  | stop => cases ends
  | hyphens given =>
      cases ends
      rw [Settles, flag?_cons_of_isSilent (isSilent_hyphens told.present), flag?, Option.or_none]
  | option read _ inductionHypothesis =>
      exact (inductionHypothesis ends).cons (follows_of_readOption told read)
  | @awaited given option argument rest next result value noted _ inductionHypothesis =>
      have settles := inductionHypothesis ends
      rcases note_cases noted with ⟨command, rfl, -⟩ | rfl
      · exact settles.elim
      · refine ⟨argument, rest, rfl, value, ?_⟩
        rw [Settles, value?_append] at settles
        exact settles

end ChangeGate.CommandLine
