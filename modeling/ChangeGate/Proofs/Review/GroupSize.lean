import ChangeGate.Proofs.Review.Due
import ChangeGate.Proofs.Review.PartGrammar
import ChangeGate.Proofs.Review.Parts

/-!
# The size of a group

A change whose part marker is read stands in a group of as many members as the marker declares. A
marker with digits that are not read as 32-bit numbers does not count: such a change is a group of
its own, however many parts it declares.
-/

namespace ChangeGate.Review

open ChangeGate.Text

/-- The first part marker in the message of a change has these two runs of digits. -/
def Change.Declares (change : Change) (index total : List Char) : Prop :=
  ∃ before rest, CutFirst HoldsParts change.message.toList before rest ∧
    StartsWithParts index total rest

/-- Digits that are read as a 32-bit number. -/
def Readable (digits : List Char) : Prop :=
  ∃ value : UInt32, Denotes digits value.toNat

section
variable {change : Change} {index total : List Char}

theorem Change.Declares.part?_eq_some_iff (declares : change.Declares index total)
    {marker : PartMarker} : change.part? = some marker ↔
      Denotes index marker.index.toNat ∧ Denotes total marker.total.toNat := by
  obtain ⟨before, rest, first, starts⟩ := declares
  exact partMarker?_of_cutFirst first starts

/-- A change that declares a part has no marker when one of its numbers is not read. -/
theorem Change.Declares.part?_eq_none (declares : change.Declares index total)
    (unread : ¬ (Readable index ∧ Readable total)) : change.part? = none := by
  rw [Option.eq_none_iff_forall_ne_some]
  intro marker isMarker
  obtain ⟨isIndex, isTotal⟩ := declares.part?_eq_some_iff.mp isMarker
  exact unread ⟨⟨_, isIndex⟩, ⟨_, isTotal⟩⟩

end

section
variable {listed : List Change} {group : Group} {change : Change}

/-- A change without a marker is a group of its own. -/
theorem members_eq_of_part?_eq_none (found : group ∈ (Grouping.ofChanges listed).groups)
    (member : change ∈ group.members) (unmarked : change.part? = none) :
    group.members = [change] := by
  obtain ⟨cluster, isCluster, made⟩ := exists_cluster_of_group found
  have same := perm_of_group?_eq_some isCluster made
  have inCluster := same.mem_iff.mp member
  rcases mem_clusters_iff.mp isCluster with ⟨alone, -, -, rfl⟩ | ⟨topic, -, rfl⟩
  · obtain rfl : change = alone := List.mem_singleton.mp inCluster
    exact List.perm_singleton.mp same
  · have declared : change.partTopic? = some topic := by
      simpa using (List.mem_filter.mp inCluster).2
    rw [change.partTopic?_eq_none_iff.mpr unmarked] at declared
    cases declared

/-- A change with a marker stands in a group of as many members as the marker declares. -/
theorem length_members_of_part?_eq_some {marker : PartMarker}
    (found : group ∈ (Grouping.ofChanges listed).groups) (member : change ∈ group.members)
    (marked : change.part? = some marker) : group.members.length = marker.total.toNat := by
  obtain ⟨cluster, isCluster, made⟩ := exists_cluster_of_group found
  have inCluster := (perm_of_group?_eq_some isCluster made).mem_iff.mp member
  rcases mem_clusters_iff.mp isCluster with ⟨alone, -, keyless, rfl⟩ | ⟨topic, -, rfl⟩
  · rw [← List.mem_singleton.mp inCluster, change.partTopic?_eq_none_iff, marked] at keyless
    cases keyless
  · rw [Cluster.group?, Bundle.ofCluster, Bundle.toGroup] at made
    generalize isParts : List.filterMap _ _ = parts at made
    have isPart : ⟨marker, change⟩ ∈ parts := by
      rw [← isParts]
      exact List.mem_filterMap.mpr ⟨change, inCluster, Change.toPart?_eq_some marked⟩
    -- A group was made, so the parts of the topic are complete.
    have complete : Complete parts := by
      by_contra broken
      obtain ⟨rejected, isRejected, -⟩ := assemble_of_not_complete topic broken
      rw [isRejected] at made
      cases made
    rw [(assemble_of_complete topic complete).1] at made
    obtain rfl := Option.some.inj made
    have sorted := stablySorted_sortParts parts
    have totals := (((complete_congr sorted.perm).mpr complete).of_rising sorted.rising).1
    rw [List.length_map, totals ⟨marker, change⟩ (sorted.perm.mem_iff.mpr isPart)]

end

/-- What holds of a group and the digits of the part marker of one of its members. -/
structure DeclaredSize (group : Group) (change : Change) (index total : List Char) : Prop where
  /-- With digits of 32-bit numbers the group has as many members as these declare. -/
  whole : Readable index → Readable total → group.members.length = decimalNumber total
  /-- With any other digits the change is a group of its own. -/
  alone : ¬ (Readable index ∧ Readable total) → group.members = [change]
  /-- Apart from those that declare a single part, only the former groups have the declared size. -/
  length_iff : group.members.length = decimalNumber total ↔
    Readable index ∧ Readable total ∨ decimalNumber total = 1

/-- A part that can be read is in no group without the other parts of its set. -/
theorem declaredSize_of_declares {listed : List Change} {group : Group} {change : Change}
    {index total : List Char} (found : group ∈ (Grouping.ofChanges listed).groups)
    (member : change ∈ group.members) (declares : change.Declares index total) :
    DeclaredSize group change index total := by
  have whole (isIndex : Readable index) (isTotal : Readable total) :
      group.members.length = decimalNumber total := by
    obtain ⟨indexValue, indexDenotes⟩ := isIndex
    obtain ⟨totalValue, totalDenotes⟩ := isTotal
    have marked : change.part? = some ⟨indexValue, totalValue⟩ :=
      declares.part?_eq_some_iff.mpr ⟨indexDenotes, totalDenotes⟩
    rw [length_members_of_part?_eq_some found member marked, totalDenotes.decimalNumber_eq]
  have alone (unread : ¬ (Readable index ∧ Readable total)) : group.members = [change] :=
    members_eq_of_part?_eq_none found member (declares.part?_eq_none unread)
  refine ⟨whole, alone, ?_⟩
  constructor
  · intro asDeclared
    by_cases isRead : Readable index ∧ Readable total
    · exact Or.inl isRead
    · rw [alone isRead, List.length_singleton] at asDeclared
      exact Or.inr asDeclared.symm
  · rintro (⟨isIndex, isTotal⟩ | single)
    · exact whole isIndex isTotal
    · by_cases isRead : Readable index ∧ Readable total
      · exact whole isRead.1 isRead.2
      · rw [alone isRead, List.length_singleton, single]

/-- The first of two parts is in the group of both of them. -/
theorem declaredSize_of_first_part :
    let first : Change := { number := 10, patchset := 1, message := "MultiPart: 1/2" }
    let second : Change := { number := 20, patchset := 1, message := "MultiPart: 2/2" }
    (Grouping.ofChanges [first, second]).groups = [⟨[first, second]⟩] ∧
      DeclaredSize ⟨[first, second]⟩ first "1".toList "2".toList := by
  intro first second
  have bundled : bundles [first, second] =
      [.set "" [⟨⟨1, 2⟩, first⟩, ⟨⟨2, 2⟩, second⟩]] := by decide
  have groups : (Grouping.ofChanges [first, second]).groups = [⟨[first, second]⟩] := by
    simp [Grouping.ofChanges, bundled, Grouping.ofBundles, Bundle.toGroup, assemble_twoParts,
      Except.toOption]
  have starts : StartsWithParts "1".toList "2".toList first.message.toList :=
    partDigits?_eq_some_iff.mp (by decide)
  have declares : first.Declares "1".toList "2".toList :=
    ⟨[], _, .here ⟨_, _, starts⟩, starts⟩
  have found : ⟨[first, second]⟩ ∈ (Grouping.ofChanges [first, second]).groups :=
    groups ▸ List.mem_cons_self
  exact ⟨groups, declaredSize_of_declares found List.mem_cons_self declares⟩

/-- A part of two that is numbered with full-width digits is a group of its own. -/
theorem alone_with_full_width_digits :
    let part : Change :=
      { number := 501, patchset := 1, project := "core", message := "MultiPart: \uff11/\uff12" }
    ⟨[part]⟩ ∈ (Grouping.ofChanges [part]).groups ∧
      part.Declares "\uff11".toList "\uff12".toList ∧
      decimalNumber "\uff12".toList = 2 ∧ [part].length ≠ 2 := by
  intro part
  have starts : StartsWithParts "\uff11".toList "\uff12".toList part.message.toList :=
    partDigits?_eq_some_iff.mp (by decide)
  have declares : part.Declares "\uff11".toList "\uff12".toList :=
    ⟨[], _, .here ⟨_, _, starts⟩, starts⟩
  exact ⟨by decide, declares, by decide, by decide⟩

end ChangeGate.Review
