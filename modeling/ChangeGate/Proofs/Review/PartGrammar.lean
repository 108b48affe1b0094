import ChangeGate.Proofs.Text.Blank
import ChangeGate.Proofs.Text.Digit
import ChangeGate.Proofs.Text.Search
import ChangeGate.Review.Marker

/-!
# The grammar of part markers

A part marker is a label, a run of digits, a slash and a run of digits, with or without white space
between them. A message is read at the first place where this stands, and only there: a label with
something else behind it is passed over, but digits that are no 32-bit number end the search too.
-/

namespace ChangeGate.Review

open ChangeGate.Text

/-! ## The shape -/

/-- Some decimal digits of any script, and at least one. -/
structure IsDigitRun (digits : List Char) : Prop where
  present : digits ≠ []
  areDigits : ∀ c ∈ digits, isDecimalDigit c = true

/-- A text that starts with a part marker whose runs of digits are `index` and `total`. The second
run goes on as long as there are digits; the first one is ended by what comes behind it. -/
inductive StartsWithParts (index total : List Char) : List Char → Prop where
  | spaced {beforeIndex beforeSlash beforeTotal rest : List Char}
      (blank : ∀ c ∈ beforeIndex ++ beforeSlash ++ beforeTotal, isBlank c = true)
      (indexRun : IsDigitRun index) (totalRun : IsDigitRun total)
      (stops : Stops isDecimalDigit rest) :
      StartsWithParts index total ("MultiPart:".toList ++ beforeIndex ++ index ++ beforeSlash ++
        ['/'] ++ beforeTotal ++ total ++ rest)

/-- A text that starts with a part marker. -/
def HoldsParts (text : List Char) : Prop :=
  ∃ index total, StartsWithParts index total text

theorem IsDigitRun.isBlank {digits : List Char} (run : IsDigitRun digits) :
    ∀ c ∈ digits, isBlank c = false :=
  fun c member => isBlank_of_isDecimalDigit (run.areDigits c member)

theorem digitRun?_eq_some_iff {text digits rest : List Char} :
    digitRun? text = some (digits, rest) ↔
      text = digits ++ rest ∧ IsDigitRun digits ∧ Stops isDecimalDigit rest := by
  rw [digitRun?]
  constructor
  · intro found
    split at found
    · cases found
    · next taken present =>
      obtain ⟨rfl, rfl⟩ := Prod.mk.inj (Option.some.inj found)
      refine ⟨List.takeWhile_append_dropWhile.symm, ⟨present, ?_⟩, stops_dropWhile _ _⟩
      exact fun _ => List.mem_takeWhile_imp
  · rintro ⟨rfl, run, stops⟩
    rw [takeWhile_append_of_stops run.areDigits stops,
      dropWhile_append_of_stops run.areDigits stops]
    obtain ⟨first, others, rfl⟩ := List.exists_cons_of_ne_nil run.present
    rfl

/-- The digits of a marker are read from a text that starts with one. -/
theorem partDigits?_eq_some_iff {text index total : List Char} :
    partDigits? text = some (index, total) ↔ StartsWithParts index total text := by
  rw [partDigits?]
  simp only [Option.bind_eq_bind, Option.bind_eq_some_iff, Prod.exists, Option.pure_def,
    Option.some.injEq, Prod.mk.injEq, textAfter?_eq_some_iff, digitRun?_eq_some_iff]
  constructor
  · rintro ⟨afterLabel, rfl, _, afterIndex, ⟨isIndex, indexRun, -⟩, afterSlash, isSlash, _, rest,
      ⟨isTotal, totalRun, stops⟩, rfl, rfl⟩
    obtain ⟨beforeIndex, splitIndex, indexBlank⟩ := exists_trimStart afterLabel
    obtain ⟨beforeSlash, splitSlash, slashBlank⟩ := exists_trimStart afterIndex
    obtain ⟨beforeTotal, splitTotal, totalBlank⟩ := exists_trimStart afterSlash
    rw [splitIndex, isIndex, splitSlash, isSlash, splitTotal, isTotal]
    have starts := @StartsWithParts.spaced _ _ beforeIndex beforeSlash beforeTotal rest
      (List.forall_mem_append.mpr ⟨List.forall_mem_append.mpr ⟨indexBlank, slashBlank⟩, totalBlank⟩)
      indexRun totalRun stops
    simpa only [List.append_assoc] using starts
  · intro starts
    cases starts with
    | @spaced beforeIndex beforeSlash beforeTotal rest blank indexRun totalRun stops =>
        obtain ⟨⟨indexBlank, slashBlank⟩, totalBlank⟩ :=
          List.forall_mem_append.mp blank |>.imp_left List.forall_mem_append.mp
        simp only [List.append_assoc]
        refine ⟨_, rfl, index, beforeSlash ++ (['/'] ++ (beforeTotal ++ (total ++ rest))),
          ⟨?_, indexRun, ?_⟩, beforeTotal ++ (total ++ rest), ?_, total, rest,
          ⟨?_, totalRun, stops⟩, rfl, rfl⟩
        · exact trimStart_append indexBlank (stops_append indexRun.present indexRun.isBlank)
        · refine Stops.append (stops_cons (by decide)) (stops_of_outside ?_)
          exact fun c member => isDecimalDigit_of_isBlank (slashBlank c member)
        · exact trimStart_append slashBlank (stops_cons (by decide))
        · exact trimStart_append totalBlank (stops_append totalRun.present totalRun.isBlank)

/-- The label is a word that cannot overlap with itself. -/
theorem isPrefix_of_holdsParts {text : List Char} (holds : HoldsParts text) :
    "MultiPart:".toList <+: text := by
  obtain ⟨index, total, starts⟩ := holds
  cases starts with
  | spaced _ _ _ _ =>
      simp only [List.append_assoc]
      exact List.prefix_append _ _

/-! ## Reading -/

section
variable {digits : List Char} {value : UInt32}

/-- A run of digits is read as the 32-bit number that it denotes, if there is one. -/
theorem IsDigitRun.readUInt32_eq_ok_iff (run : IsDigitRun digits) :
    readUInt32 digits = .ok value ↔ Denotes digits value.toNat := by
  rw [Text.readUInt32_eq_ok_iff]
  obtain ⟨first, others, rfl⟩ := List.exists_cons_of_ne_nil run.present
  apply isNumeral_unsigned_iff
  rintro rfl
  exact absurd (run.areDigits '+' List.mem_cons_self) (by decide)

/-- The decimal text of a number is a run of digits. -/
theorem isDigitRun_toDigits (number : Nat) : IsDigitRun (Nat.toDigits 10 number) where
  present := Nat.toDigits_ne_nil
  areDigits _ member := isDecimalDigit_of_isDigit (isDigit_of_mem_toDigits member)

end

section
variable {message : String} {before rest index total : List Char} {marker : PartMarker}

theorem partMarker?_eq_some_iff :
    partMarker? message = some marker ↔ ∃ index total,
      firstMatch? partDigits? message.toList = some (index, total) ∧
        readUInt32 index = .ok marker.index ∧ readUInt32 total = .ok marker.total := by
  have toOption_iff {digits : List Char} {value : UInt32} :
      (readUInt32 digits).toOption = some value ↔ readUInt32 digits = .ok value := by
    cases readUInt32 digits <;> simp [Except.toOption]
  rw [partMarker?]
  simp only [Option.bind_eq_bind, Option.bind_eq_some_iff, Prod.exists, Option.pure_def,
    Option.some.injEq, toOption_iff]
  constructor
  · rintro ⟨index, total, found, first, isIndex, second, isTotal, rfl⟩
    exact ⟨index, total, found, isIndex, isTotal⟩
  · rintro ⟨index, total, found, isIndex, isTotal⟩
    exact ⟨index, total, found, marker.index, isIndex, marker.total, isTotal, rfl⟩

theorem holdsParts_iff {text : List Char} :
    HoldsParts text ↔ ∃ answer, partDigits? text = some answer := by
  simp only [HoldsParts, Prod.exists, partDigits?_eq_some_iff]

instance : DecidablePred HoldsParts :=
  fun _ => decidable_of_iff _ (Option.isSome_iff_exists.trans holdsParts_iff.symm)

/-- The digits at the first place where a marker stands decide, whether or not they are read as
32-bit numbers. -/
theorem partMarker?_of_cutFirst (found : CutFirst HoldsParts message.toList before rest)
    (starts : StartsWithParts index total rest) :
    partMarker? message = some marker ↔
      Denotes index marker.index.toNat ∧ Denotes total marker.total.toNat := by
  have answer : firstMatch? partDigits? message.toList = some (index, total) := by
    rw [found.firstMatch?_eq fun _ => holdsParts_iff, partDigits?_eq_some_iff]
    exact starts
  obtain ⟨indexRun, totalRun⟩ : IsDigitRun index ∧ IsDigitRun total := by
    cases starts with
    | spaced _ indexRun totalRun _ => exact ⟨indexRun, totalRun⟩
  rw [partMarker?_eq_some_iff, answer]
  constructor
  · rintro ⟨_, _, same, isIndex, isTotal⟩
    obtain ⟨rfl, rfl⟩ := Prod.mk.inj (Option.some.inj same)
    exact ⟨indexRun.readUInt32_eq_ok_iff.mp isIndex, totalRun.readUInt32_eq_ok_iff.mp isTotal⟩
  · rintro ⟨isIndex, isTotal⟩
    exact ⟨index, total, rfl, indexRun.readUInt32_eq_ok_iff.mpr isIndex,
      totalRun.readUInt32_eq_ok_iff.mpr isTotal⟩

/-- Without a place where a marker stands there is none. -/
theorem partMarker?_eq_none (absent : ∀ back, back <:+ message.toList → ¬ HoldsParts back) :
    partMarker? message = none := by
  rw [Option.eq_none_iff_forall_ne_some]
  intro marker isMarker
  obtain ⟨index, total, found, -⟩ := partMarker?_eq_some_iff.mp isMarker
  obtain ⟨back, isSuffix, isAnswer⟩ := exists_of_firstMatch?_eq_some found
  exact absent back isSuffix (holdsParts_iff.mpr ⟨_, isAnswer⟩)

end

/-- What stands in front of a message, without a marker that starts there, is passed over. -/
theorem partMarker?_append {front message : String}
    (absent : ∀ back, back <:+ front.toList ++ message.toList →
      message.toList.length < back.length → ¬ HoldsParts back) :
    partMarker? (front ++ message) = partMarker? message := by
  rw [partMarker?, partMarker?, String.toList_append, firstMatch?_append]
  intro back isSuffix longer
  rw [Option.eq_none_iff_forall_ne_some]
  exact fun answer isAnswer => absent back isSuffix longer (holdsParts_iff.mpr ⟨answer, isAnswer⟩)

/-- A marker that is written for two 32-bit numbers is read as these. -/
theorem partMarker?_written (index total : UInt32)
    {before beforeIndex beforeSlash beforeTotal after : String}
    (unlabelled : ¬ "MultiPart:".toList <:+: before.toList)
    (blank : ∀ text ∈ [beforeIndex, beforeSlash, beforeTotal], isBlankText text = true)
    (stops : Stops isDecimalDigit after.toList) :
    partMarker? (before ++ "MultiPart:" ++ beforeIndex ++ numeral index.toNat ++ beforeSlash ++
      "/" ++ beforeTotal ++ numeral total.toNat ++ after) = some ⟨index, total⟩ := by
  let behind := beforeIndex.toList ++ (Nat.toDigits 10 index.toNat ++ (beforeSlash.toList ++
    (['/'] ++ (beforeTotal.toList ++ (Nat.toDigits 10 total.toNat ++ after.toList)))))
  have starts : StartsWithParts (Nat.toDigits 10 index.toNat) (Nat.toDigits 10 total.toNat)
      ("MultiPart:".toList ++ behind) := by
    simp only [List.forall_mem_cons, isBlankText, List.all_eq_true] at blank
    obtain ⟨indexBlank, slashBlank, totalBlank, -⟩ := blank
    have spaced := StartsWithParts.spaced
      (List.forall_mem_append.mpr ⟨List.forall_mem_append.mpr ⟨indexBlank, slashBlank⟩, totalBlank⟩)
      (isDigitRun_toDigits index.toNat) (isDigitRun_toDigits total.toNat) stops
    simp only [List.append_assoc] at spaced
    exact spaced
  have labelFound : CutFirst ("MultiPart:".toList <+: ·)
      (before.toList ++ ("MultiPart:".toList ++ behind)) before.toList
        ("MultiPart:".toList ++ behind) := cutFirst_word (by decide) unlabelled
  have found := labelFound.narrow ⟨_, _, starts⟩ fun _ => isPrefix_of_holdsParts
  refine (@partMarker?_of_cutFirst _ before.toList _ _ _ ⟨index, total⟩ ?_ starts).mpr
    ⟨denotes_toDigits _, denotes_toDigits _⟩
  simp only [String.toList_append, toList_numeral, List.append_assoc]
  exact found

/-- What holds of a message and the part marker in it. -/
structure PartLaws (message : String) : Prop where
  /-- There is none unless the shape of one stands in the message. -/
  absent : (∀ back, back <:+ message.toList → ¬ HoldsParts back) → partMarker? message = none
  /-- At the first place with that shape its digits are read, and there is no marker if they are
  not those of 32-bit numbers. -/
  firstPlace : ∀ {before rest index total}, CutFirst HoldsParts message.toList before rest →
    StartsWithParts index total rest → ∀ marker, partMarker? message = some marker ↔
      Denotes index marker.index.toNat ∧ Denotes total marker.total.toNat
  /-- There is such a place when the shape stands anywhere. -/
  exists_firstPlace : (∃ back, back <:+ message.toList ∧ HoldsParts back) →
    ∃ before rest index total, CutFirst HoldsParts message.toList before rest ∧
      StartsWithParts index total rest
  /-- What stands in front makes no difference, labels included, if no marker starts there. -/
  behind : ∀ {front : String}, (∀ back, back <:+ front.toList ++ message.toList →
      message.toList.length < back.length → ¬ HoldsParts back) →
    partMarker? (front ++ message) = partMarker? message
  /-- A marker is read for all 32-bit numbers, with any white space in it, behind a text without the
  label and in front of one that does not go on with a digit. -/
  written : ∀ (index total : UInt32) {before beforeIndex beforeSlash beforeTotal after : String},
    ¬ "MultiPart:".toList <:+: before.toList →
      (∀ text ∈ [beforeIndex, beforeSlash, beforeTotal], isBlankText text = true) →
        Stops isDecimalDigit after.toList →
          partMarker? (before ++ "MultiPart:" ++ beforeIndex ++ numeral index.toNat ++
            beforeSlash ++ "/" ++ beforeTotal ++ numeral total.toNat ++ after) =
              some ⟨index, total⟩

/-- The first part marker of a message is the one that counts. -/
theorem partLaws (message : String) : PartLaws message where
  absent := partMarker?_eq_none
  firstPlace found starts _ := partMarker?_of_cutFirst found starts
  exists_firstPlace := by
    intro somewhere
    obtain ⟨before, rest, found⟩ := exists_cutFirst somewhere
    obtain ⟨index, total, starts⟩ := found.holds
    exact ⟨before, rest, index, total, found, starts⟩
  behind := partMarker?_append
  written := partMarker?_written

/-- A label with a letter behind it does not hide the marker after it, which is read up to the largest
number and over the end of a line. The marker behind that one is not looked at. -/
theorem partLaws_of_three_labels :
    partMarker? "MultiPart: a/3\nMultiPart:\u00a04294967295 /\n2, MultiPart: 1/1" =
      some ⟨4294967295, 2⟩ := by
  have reads : partMarker? "MultiPart:\u00a04294967295 /\n2, MultiPart: 1/1" =
      some ⟨4294967295, 2⟩ :=
    @(partLaws "").written 4294967295 2 "" "\u00a0" " " "\n" ", MultiPart: 1/1" (by decide)
      (by decide) (by decide)
  have absent : ∀ back ∈ ("MultiPart: a/3\n".toList ++
      "MultiPart:\u00a04294967295 /\n2, MultiPart: 1/1".toList).tails,
        "MultiPart:\u00a04294967295 /\n2, MultiPart: 1/1".toList.length < back.length →
          ¬ HoldsParts back := by decide
  have passed := @(partLaws "MultiPart:\u00a04294967295 /\n2, MultiPart: 1/1").behind
    "MultiPart: a/3\n" fun back isSuffix => absent back ((List.mem_tails _ _).mpr isSuffix)
  exact passed.trans reads

end ChangeGate.Review
