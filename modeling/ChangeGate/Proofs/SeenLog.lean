import ChangeGate.Proofs.Review.Fresh
import ChangeGate.Proofs.Review.Patchsets
import ChangeGate.Proofs.Review.Ref
import ChangeGate.Proofs.Text.Utf8
import ChangeGate.SeenLog

/-!
# The log read back

Whatever is written to the log is accepted when it is read, and gives back the record that was
written. The record of some changes covers each of them that can be fetched.
-/

namespace ChangeGate.SeenLog

open ChangeGate.Review ChangeGate.Text

/-- The lines of a log are the texts of its refs, and an empty line after the last break. -/
theorem splitOn_flatMap_text (refs : List ChangeRef) :
    (refs.flatMap fun ref => ref.text.toList ++ ['\n']).splitOn '\n' =
      refs.map (fun ref => ref.text.toList) ++ [[]] := by
  induction refs with
  | nil => rfl
  | cons ref rest inductionHypothesis =>
      have oneLine : '\n' ∉ ref.text.toList := by
        intro member
        exact absurd (ref.isBlank_of_mem_text '\n' member) (by decide)
      rw [List.flatMap_cons, List.append_assoc, List.singleton_append]
      -- The first break ends the first ref, since no ref holds one.
      rw [List.splitOn_append_cons_self_of_not_mem oneLine]
      rw [inductionHypothesis, List.map_cons, List.cons_append]

/-- Lines with the texts of refs read as those refs. -/
theorem readLines_map_text (line : Nat) (refs : List ChangeRef) :
    readLines line (refs.map (fun ref => ref.text.toList) ++ [[]]) = .ok refs := by
  induction refs generalizing line with
  | nil =>
      rw [List.map_nil, List.nil_append, readLines, trim_nil]
      rfl
  | cons ref rest inductionHypothesis =>
      have trimmed : trim ref.text.toList = ref.text.toList :=
        trim_of_isBlank_eq_false ref.isBlank_of_mem_text
      have present : ref.text.toList.isEmpty = false :=
        List.isEmpty_eq_false_iff.mpr ref.toList_text_ne_nil
      rw [List.map_cons, List.cons_append, readLines, trimmed, present]
      rw [String.ofList_toList, ChangeRef.parse_text]
      simp only [Bool.false_eq_true, if_false]
      rw [inductionHypothesis (line + 1)]
      rfl

/-- The text of a log reads as the record it was written for. -/
theorem readText_render (seen : Patchsets) : readText (render seen) = .ok seen := by
  rw [readText, render, String.toList_ofList, splitOn_flatMap_text, readLines_map_text]
  exact congrArg Except.ok seen.highest_refs

/-- A written log is loadable, as the record that was written. -/
theorem load_render (seen : Patchsets) : load (.ok (render seen).toUTF8) = .ok seen := by
  rw [load, fromUTF8?_toUTF8]
  exact readText_render seen

/-- The record of some changes covers each one that can be fetched, and every lower patchset of
it. -/
theorem record_covers {changes : List Change} {change : Change} {ref : ChangeRef}
    (member : change ∈ changes) (fetchable : change.fetchable = true)
    (same : change.number = ref.number) (atLeast : ref.patchset ≤ change.patchset) :
    (record changes).Covers ref := by
  have listed : change.ref ∈ (changes.filter (·.fetchable)).map (·.ref) :=
    List.mem_map.mpr ⟨change, List.mem_filter.mpr ⟨member, fetchable⟩, rfl⟩
  obtain ⟨patchset, known, notBelow⟩ := Patchsets.exists_getElem?_highest listed
  exact ⟨patchset, same ▸ known, UInt64.le_trans atLeast notBelow⟩

/-- Nothing among some changes is fresh against their own record. -/
theorem fresh_record (changes : List Change) :
    (Grouping.ofChanges changes).fresh (record changes) = ⟨[], []⟩ := by
  apply Grouping.fresh_of_covers
  intro change member
  have fetchable := Grouping.fetchable_of_mem_ofChanges changes member
  have listed : change ∈ changes.filter (·.fetchable) :=
    (Grouping.perm_members_ofChanges changes).mem_iff.mp member
  exact record_covers (List.mem_filter.mp listed).1 fetchable rfl (UInt64.le_refl _)

end ChangeGate.SeenLog
