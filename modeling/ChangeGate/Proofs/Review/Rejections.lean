import ChangeGate.Proofs.Review.Reordering
import ChangeGate.Proofs.Review.Topics
import Mathlib

/-!
# Rejected sets in another order

The order in which changes are listed decides neither what is rejected nor why: the same topics are
rejected, each for the same kind of issue and with the same numbers. Parts of one index keep the
order in which they are listed, so only the change that is reported on, and the totals that are held
against each other, may be others.
-/

namespace ChangeGate.Review

/-- Two issues of one kind. An incomplete set and an index out of place are told with the same
numbers. -/
inductive Issue.SameKind : Issue → Issue → Prop where
  | incomplete (topic : String) (total : UInt32) (found : Nat) :
      SameKind (.incomplete topic total found) (.incomplete topic total found)
  | totalMismatch (reference other : String) (expected found wanted declared : UInt32) :
      SameKind (.totalMismatch reference expected found) (.totalMismatch other wanted declared)
  | indexMismatch (reference other : String) (expected found : UInt32) :
      SameKind (.indexMismatch reference expected found) (.indexMismatch other expected found)

/-- Two rejected sets of the same changes, for issues of one kind. -/
structure RejectedSet.Alike (rejected other : RejectedSet) : Prop where
  members : rejected.members.Perm other.members
  issue : rejected.issue.SameKind other.issue

/-- What becomes of a topic in two groupings: nothing, one group, or sets rejected alike. -/
inductive Grouping.TopicAlike : Grouping → Grouping → Prop where
  | nothing : TopicAlike ⟨[], []⟩ ⟨[], []⟩
  | group (group : Group) : TopicAlike ⟨[group], []⟩ ⟨[group], []⟩
  | rejected {rejected other : RejectedSet} (alike : rejected.Alike other) :
      TopicAlike ⟨[], [rejected]⟩ ⟨[], [other]⟩

/-! ## The first part out of place -/

/-- By index, the same indices are declared one after the other. -/
theorem StablySorted.map_index_congr {parts others sorted sortedOthers : List Part}
    (isSorted : StablySorted parts sorted) (areSorted : StablySorted others sortedOthers)
    (perm : parts.Perm others) :
    sorted.map (·.marker.index) = sortedOthers.map (·.marker.index) := by
  have same : (sorted.map (·.marker.index)).Perm (sortedOthers.map (·.marker.index)) :=
    (isSorted.perm.trans (perm.trans areSorted.perm.symm)).map _
  exact same.eq_of_pairwise (fun _ _ _ _ => UInt32.le_antisymm)
    (List.pairwise_map.mpr isSorted.rising) (List.pairwise_map.mpr areSorted.rising)

section
variable {before after front back : List Part} {part twin : Part} {expected wanted : UInt32}

/-- Parts that are in their places with the same indices reach no further than to the first part out
of place. -/
theorem InPlace.length_le
    (sameIndices : (before ++ part :: after).map (·.marker.index) =
      (front ++ twin :: back).map (·.marker.index))
    (inPlace : InPlace front) (isExpected : expected.toNat = before.length + 1)
    (misplaced : part.marker.index ≠ expected) : front.length ≤ before.length := by
  by_contra longer
  have inside : before.length < front.length := by omega
  have atPlace : front[before.length].marker.index.toNat = before.length + 1 := by
    have placed := congrArg (·[before.length]?) inPlace
    simpa [List.getElem?_range', inside, Nat.add_comm] using placed
  have sameIndex : part.marker.index = front[before.length].marker.index := by
    have found := congrArg (·[before.length]?) sameIndices
    simpa [List.getElem?_append_left, inside] using found
  apply misplaced
  rw [sameIndex]
  exact UInt32.toNat_inj.mp (atPlace.trans isExpected.symm)

/-- With the same indices the first part out of place has the same place and the same index. -/
theorem InPlace.misplaced_congr
    (sameIndices : (before ++ part :: after).map (·.marker.index) =
      (front ++ twin :: back).map (·.marker.index))
    (inPlace : InPlace before) (isExpected : expected.toNat = before.length + 1)
    (misplaced : part.marker.index ≠ expected)
    (alsoInPlace : InPlace front) (isWanted : wanted.toNat = front.length + 1)
    (alsoMisplaced : twin.marker.index ≠ wanted) :
    expected = wanted ∧ part.marker.index = twin.marker.index := by
  have sameLength : before.length = front.length := Nat.le_antisymm
    (inPlace.length_le sameIndices.symm isWanted alsoMisplaced)
    (alsoInPlace.length_le sameIndices isExpected misplaced)
  rw [List.map_append, List.map_append, List.map_cons, List.map_cons] at sameIndices
  obtain ⟨-, rest⟩ := List.append_inj sameIndices (by simpa using sameLength)
  refine ⟨UInt32.toNat_inj.mp ?_, (List.cons.inj rest).1⟩
  rw [isExpected, isWanted, sameLength]

end

/-! ## The verdict on a set -/

section
variable (topic : String) {parts others : List Part}

/-- Sets of the same parts are rejected alike. -/
theorem Rejects.alike {sorted sortedOthers : List Part} {rejected other : RejectedSet}
    (isSorted : StablySorted parts sorted) (areSorted : StablySorted others sortedOthers)
    (rejects : Rejects topic parts sorted rejected)
    (alsoRejects : Rejects topic others sortedOthers other) (perm : parts.Perm others)
    (present : parts ≠ []) : rejected.Alike other := by
  constructor
  case members =>
    rw [rejects.members, alsoRejects.members]
    exact (isSorted.perm.trans (perm.trans areSorted.perm.symm)).map _
  case issue =>
    by_cases differ :
      ∃ part ∈ parts, ∃ other ∈ parts, part.marker.total ≠ other.marker.total
    · have alsoDiffer :
          ∃ part ∈ others, ∃ other ∈ others, part.marker.total ≠ other.marker.total := by
        obtain ⟨part, member, twin, isMember, differs⟩ := differ
        exact ⟨part, perm.mem_iff.mp member, twin, perm.mem_iff.mp isMember, differs⟩
      obtain ⟨_, _, _, _, -, -, -, -, issue⟩ := rejects.totalMismatch differ
      obtain ⟨_, _, _, _, -, -, -, -, otherIssue⟩ := alsoRejects.totalMismatch alsoDiffer
      rw [issue, otherIssue]
      exact .totalMismatch _ _ _ _ _ _
    · obtain ⟨first, isFirst⟩ := List.exists_mem_of_ne_nil parts present
      have totals : ∀ part ∈ parts, part.marker.total = first.marker.total := by
        intro part member
        by_contra differs
        exact differ ⟨part, member, first, isFirst, differs⟩
      have alsoTotals : ∀ part ∈ others, part.marker.total = first.marker.total :=
        fun part member => totals part (perm.mem_iff.mpr member)
      by_cases counted : parts.length = first.marker.total.toNat
      · obtain ⟨before, part, after, expected, split, inPlace, isExpected, misplaced, -, issue⟩ :=
          rejects.indexMismatch _ totals counted
        obtain ⟨front, twin, back, wanted, alsoSplit, alsoInPlace, isWanted, alsoMisplaced, -,
          otherIssue⟩ := alsoRejects.indexMismatch _ alsoTotals (perm.length_eq.symm.trans counted)
        have sameIndices := isSorted.map_index_congr areSorted perm
        rw [split, alsoSplit] at sameIndices
        obtain ⟨rfl, sameIndex⟩ := InPlace.misplaced_congr sameIndices inPlace isExpected misplaced
          alsoInPlace isWanted alsoMisplaced
        rw [issue, otherIssue, sameIndex]
        exact .indexMismatch _ _ _ _
      · obtain ⟨_, _, -, -, issue⟩ := rejects.incomplete _ totals counted
        obtain ⟨_, _, -, -, otherIssue⟩ :=
          alsoRejects.incomplete _ alsoTotals (perm.length_eq ▸ counted)
        rw [issue, otherIssue, perm.length_eq]
        exact .incomplete _ _ _

/-- What becomes of a set of parts does not depend on the order in which they are listed. -/
theorem topicAlike_assemble (perm : parts.Perm others) :
    Grouping.TopicAlike (.ofOutcome (assemble topic parts))
      (.ofOutcome (assemble topic others)) := by
  by_cases complete : Complete parts
  · rw [(assemble_of_complete topic complete).1,
      (assemble_of_complete topic ((complete_congr perm).mp complete)).1,
      complete.sortParts_congr perm]
    exact .group _
  · obtain ⟨rejected, isRejected, rejects⟩ := assemble_of_not_complete topic complete
    obtain ⟨other, isOther, alsoRejects⟩ := assemble_of_not_complete topic
      (fun whole => complete ((complete_congr perm).mpr whole))
    have present : parts ≠ [] := by
      rintro rfl
      exact complete ⟨0, List.Perm.refl []⟩
    rw [isRejected, isOther]
    exact .rejected (rejects.alike topic (stablySorted_sortParts parts)
      (stablySorted_sortParts others) alsoRejects perm present)

end

/-! ## What is rejected of a list -/

/-- The set that is rejected under a topic, if there is one. -/
def rejectedUnder? (topic : String) (listed : List Change) : Option RejectedSet :=
  match assemble topic (partsUnder topic listed) with
  | .error rejected => some rejected
  | .ok _ => none

/-- What is rejected is rejected under the topics that parts are declared under. -/
theorem perm_rejected_ofChanges (listed : List Change) :
    (Grouping.ofChanges listed).rejected.Perm
      (((listed.filter (·.fetchable)).filterMap (·.partTopic?)).dedup.filterMap
        (rejectedUnder? · listed)) := by
  rw [Grouping.ofChanges_eq]
  refine ((perm_clusters _ _).filterMap Cluster.rejected?).trans ?_
  rw [List.filterMap_append, List.filterMap_map, List.filterMap_map]
  have noneAlone : (Cluster.rejected? ∘ Cluster.alone : Change → Option RejectedSet) =
      fun _ => none := rfl
  rw [noneAlone, List.filterMap_none, List.nil_append]
  exact List.Perm.refl _

section
variable {listed other : List Change}

theorem perm_partsUnder (topic : String) (same : listed.Perm other) :
    (partsUnder topic listed).Perm (partsUnder topic other) :=
  ((same.filter _).filter _).filterMap _

/-- Under a topic the same is rejected of a reordered list. -/
theorem rel_rejectedUnder? (topic : String) (same : listed.Perm other) :
    Option.Rel RejectedSet.Alike (rejectedUnder? topic listed) (rejectedUnder? topic other) := by
  have alike := topicAlike_assemble topic (perm_partsUnder topic same)
  rw [rejectedUnder?, rejectedUnder?]
  generalize assemble topic (partsUnder topic listed) = outcome at alike
  generalize assemble topic (partsUnder topic other) = otherOutcome at alike
  cases outcome with
  | ok group =>
      cases otherOutcome with
      | ok _ => exact .none
      | error _ => cases alike
  | error rejected =>
      cases otherOutcome with
      | ok _ => cases alike
      | error _ =>
          cases alike with
          | rejected alike => exact .some alike

/-- Members of a grouping declare no part under a topic that the list has none under. -/
theorem declareUnder_eq_false {topic : String} (undeclared : partsUnder topic listed = [])
    {members : List Change}
    (grouped : ∀ change ∈ members, change ∈ (Grouping.ofChanges listed).members) :
    declareUnder topic members = false := by
  rw [declareUnder, List.any_eq_false]
  intro change member isTopic
  have isTopic : change.partTopic? = some topic := of_decide_eq_true isTopic
  obtain ⟨marker, marked, -⟩ := Option.map_eq_some_iff.mp isTopic
  have fetched := (Grouping.perm_members_ofChanges listed).mem_iff.mp (grouped change member)
  have isPart : ⟨marker, change⟩ ∈ partsUnder topic listed :=
    List.mem_filterMap.mpr
      ⟨change, List.mem_filter.mpr ⟨fetched, decide_eq_true isTopic⟩, Change.toPart?_eq_some marked⟩
  rw [undeclared] at isPart
  cases isPart

/-- Nothing comes of a topic that no part is declared under. -/
theorem under_ofChanges_of_undeclared {topic : String} (undeclared : partsUnder topic listed = []) :
    (Grouping.ofChanges listed).under topic = ⟨[], []⟩ := by
  have groups : (Grouping.ofChanges listed).groups.filter
      (fun group => declareUnder topic group.members) = [] := by
    rw [List.filter_eq_nil_iff]
    intro group isGroup
    rw [declareUnder_eq_false undeclared]
    · exact Bool.false_ne_true
    · exact fun change member =>
        List.mem_append_left _ (List.mem_flatMap.mpr ⟨group, isGroup, member⟩)
  have rejected : (Grouping.ofChanges listed).rejected.filter
      (fun set => declareUnder topic set.members) = [] := by
    rw [List.filter_eq_nil_iff]
    intro set isSet
    rw [declareUnder_eq_false undeclared]
    · exact Bool.false_ne_true
    · exact fun change member =>
        List.mem_append_right _ (List.mem_flatMap.mpr ⟨set, isSet, member⟩)
  rw [Grouping.under, groups, rejected]

end

/-- Two groupings that tell the same of the same changes. The rejected sets go together one by
one, and so does what becomes of each topic. -/
structure Grouping.Alike (grouping other : Grouping) : Prop where
  groups : grouping.groups.Perm other.groups
  rejected : ∃ reordered, List.Forall₂ RejectedSet.Alike grouping.rejected reordered ∧
    reordered.Perm other.rejected
  topics : ∀ topic, TopicAlike (grouping.under topic) (other.under topic)

/-- Grouping does not depend on the order in which changes are listed. -/
theorem grouping_alike_of_perm {listed other : List Change} (same : listed.Perm other) :
    (Grouping.ofChanges listed).Alike (Grouping.ofChanges other) := by
  constructor
  case groups => exact perm_groups_ofChanges same
  case rejected =>
    have sameTopics := ((same.filter (·.fetchable)).filterMap (·.partTopic?)).dedup
    have together : List.Forall₂ RejectedSet.Alike
        (((listed.filter (·.fetchable)).filterMap (·.partTopic?)).dedup.filterMap
          (rejectedUnder? · listed))
        (((listed.filter (·.fetchable)).filterMap (·.partTopic?)).dedup.filterMap
          (rejectedUnder? · other)) := by
      apply List.rel_filterMap ?_ (List.forall₂_same.mpr fun _ _ => Eq.refl _)
      rintro topic _ rfl
      exact rel_rejectedUnder? topic same
    obtain ⟨reordered, paired, perm⟩ :=
      List.perm_comp_forall₂ (perm_rejected_ofChanges listed) together
    exact ⟨reordered, paired, perm.trans
      ((sameTopics.filterMap _).trans (perm_rejected_ofChanges other).symm)⟩
  case topics =>
    intro topic
    by_cases declared : partsUnder topic listed = []
    · have alsoDeclared : partsUnder topic other = [] :=
        List.perm_nil.mp (declared ▸ (perm_partsUnder topic same).symm)
      rw [under_ofChanges_of_undeclared declared, under_ofChanges_of_undeclared alsoDeclared]
      exact .nothing
    · have alsoDeclared : partsUnder topic other ≠ [] :=
        fun none => declared (List.perm_nil.mp (none ▸ perm_partsUnder topic same))
      rw [under_ofChanges declared, under_ofChanges alsoDeclared]
      exact topicAlike_assemble topic (perm_partsUnder topic same)

/-- Two changes that declare the same part are rejected in either order, on the one that is listed
last. -/
theorem grouping_alike_of_twins :
    let first : Change := { number := 10, patchset := 1, message := "MultiPart: 1/2" }
    let twin : Change := { number := 11, patchset := 1, message := "MultiPart: 1/2" }
    [first, twin].Perm [twin, first] ∧
      (Grouping.ofChanges [first, twin]).rejected.map (·.change) = [twin] ∧
      (Grouping.ofChanges [twin, first]).rejected.map (·.change) = [first] ∧
      (Grouping.ofChanges [first, twin]).Alike (Grouping.ofChanges [twin, first]) := by
  intro first twin
  have same : [first, twin].Perm [twin, first] := .swap twin first []
  exact ⟨same, by cbv, by cbv, grouping_alike_of_perm same⟩

end ChangeGate.Review
