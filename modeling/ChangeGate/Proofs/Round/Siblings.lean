import ChangeGate.Proofs.Ci.Stale
import ChangeGate.Proofs.Review.Fresh
import ChangeGate.Proofs.Review.Parts
import ChangeGate.Round.Verdict
import Mathlib.Data.List.Nodup

/-!
# The builds of one round

The groups of one round have no change in common, and neither have their builds. So the build of a
group is stale for that group when it comes again, and never for another one of the same round.
-/

namespace ChangeGate.Review

/-- Each change that can be fetched is listed once, and is named by its reference. -/
structure ListedApart (changes : List Change) : Prop where
  once : ((changes.filter fun change => change.reference ≠ "").map (·.number)).Nodup
  named : ∀ change ∈ changes, change.reference ≠ "" → change.NamedByReference

variable {changes : List Change}

/-- The members of a group are named by their references. -/
theorem ListedApart.named_members (apart : ListedApart changes) {group : Group}
    (found : group ∈ (Grouping.ofChanges changes).groups) :
    ∀ change ∈ group.members, change.NamedByReference := by
  intro change member
  have grouped : change ∈ (Grouping.ofChanges changes).members :=
    List.mem_append_left _ (List.mem_flatMap.mpr ⟨group, found, member⟩)
  have listed := (Grouping.perm_members_ofChanges changes).mem_iff.mp grouped
  rw [List.mem_filter, Change.fetchable_iff] at listed
  exact apart.named change listed.1 listed.2

/-- Two groups have no number in common. -/
theorem ListedApart.groups_pairwise (apart : ListedApart changes) :
    (Grouping.ofChanges changes).groups.Pairwise fun group other =>
      ∀ change ∈ group.members, ∀ another ∈ other.members, change.number ≠ another.number := by
  have kept := (Grouping.perm_members_ofChanges changes).map (·.number)
  have once : ((Grouping.ofChanges changes).members.map (·.number)).Nodup := by
    rw [kept.nodup_iff, filter_fetchable]
    exact apart.once
  rw [Grouping.members, List.map_append] at once
  have inGroups := (List.nodup_append.mp once).1
  rw [List.map_flatMap, List.nodup_flatMap] at inGroups
  refine inGroups.2.imp ?_
  intro group other disjoint change member another otherMember same
  exact disjoint (List.mem_map_of_mem member) (same ▸ List.mem_map_of_mem otherMember)

/-- Groups at different places have no number in common. -/
theorem ListedApart.number_ne (apart : ListedApart changes) {place otherPlace : Nat}
    (different : place ≠ otherPlace) {group other : Group}
    (found : (Grouping.ofChanges changes).groups[place]? = some group)
    (otherFound : (Grouping.ofChanges changes).groups[otherPlace]? = some other) :
    ∀ change ∈ group.members, ∀ another ∈ other.members, change.number ≠ another.number := by
  have pairwise := List.pairwise_iff_getElem.mp apart.groups_pairwise
  obtain ⟨inside, rfl⟩ := List.getElem?_eq_some_iff.mp found
  obtain ⟨otherInside, rfl⟩ := List.getElem?_eq_some_iff.mp otherFound
  rcases Nat.lt_or_gt_of_ne different with before | after
  · exact pairwise place otherPlace inside otherInside before
  · intro change member another otherMember
    have apart := pairwise otherPlace place otherInside inside after
    exact (apart another otherMember change member).symm

end ChangeGate.Review

namespace ChangeGate.Round

open ChangeGate.Ci ChangeGate.Review

theorem considered_named (settings : Settings) {group : Group}
    (named : ∀ change ∈ group.members, change.NamedByReference) :
    ∀ change ∈ (considered settings group).members, change.NamedByReference :=
  fun change member => named change (List.mem_filter.mp member).1

/-- A build names the refs of the group that it is for. -/
theorem getElem?_refsParam_paramsFor (group : Group) (tests : List String) :
    (paramsFor group tests)[refsParam]? = some [String.intercalate ":" group.references] := rfl

/-- The build of a group is stale for that group, and not for another one of the same round. -/
theorem isStale_own_not_sibling (settings : Settings) {changes : List Change}
    (apart : ListedApart changes) {place otherPlace : Nat} (different : place ≠ otherPlace)
    {group other : Group} (found : (Grouping.ofChanges changes).groups[place]? = some group)
    (otherFound : (Grouping.ofChanges changes).groups[otherPlace]? = some other)
    (present : (considered settings group).members ≠ []) (tests : List String) :
    ∃ refs, (paramsFor (considered settings group) tests)[refsParam]? = some [refs] ∧
      isStale refs (considered settings other).patchsets = .ok false ∧
      isStale refs (considered settings group).patchsets = .ok true := by
  have named := considered_named settings
    (apart.named_members (List.mem_of_getElem? found))
  refine ⟨_, getElem?_refsParam_paramsFor _ tests, ?_, ?_⟩
  · rw [isStale_references present named, superseded_eq_false_of_disjoint]
    · obtain ⟨change, member⟩ := List.exists_mem_of_ne_nil _ present
      exact ⟨change.number, Group.mem_patchsets_iff.mpr ⟨change, member, rfl⟩⟩
    · intro number inGroup inOther
      obtain ⟨change, member, rfl⟩ := Group.mem_patchsets_iff.mp inGroup
      obtain ⟨another, otherMember, same⟩ := Group.mem_patchsets_iff.mp inOther
      exact apart.number_ne different found otherFound change (List.mem_filter.mp member).1 another
        (List.mem_filter.mp otherMember).1 same.symm
  · rw [isStale_references present named, superseded_self]

/-- A set with a part in a project that is not known leaves the build of the change beside it
alone. -/
theorem isStale_own_not_sibling_of_set_and_change :
    let first : Change :=
      { number := 7, patchset := 2, project := "core", message := "MultiPart: 1/2" }
    let alone : Change :=
      { number := 8, patchset := 2, project := "core", reference := "a/b/c/08/+2" }
    let second : Change :=
      { number := 9, patchset := 1, project := "attic", message := "MultiPart: 2/2" }
    let settings : Settings := { gate := { knownProjects := ["core"] } }
    ListedApart [first, alone, second] ∧
      ∃ refs, (paramsFor (considered settings ⟨[alone]⟩) ["unit"])[refsParam]? = some [refs] ∧
        isStale refs (considered settings ⟨[first, second]⟩).patchsets = .ok false ∧
        isStale refs (considered settings ⟨[alone]⟩).patchsets = .ok true := by
  intro first alone second settings
  have apart : ListedApart [first, alone, second] := by
    refine ⟨by decide, ?_⟩
    intro change member _
    simp only [List.mem_cons, List.not_mem_nil, or_false] at member
    rcases member with rfl | rfl | rfl
    · exact Change.namedByReference_of_eq_text rfl
    · exact ⟨by decide, by decide⟩
    · exact Change.namedByReference_of_eq_text rfl
  have bundled : bundles [first, alone, second] =
      [.set "" [⟨⟨1, 2⟩, first⟩, ⟨⟨2, 2⟩, second⟩], .alone alone] := by decide
  have groups : (Grouping.ofChanges [first, alone, second]).groups =
      [⟨[first, second]⟩, ⟨[alone]⟩] := by
    simp [Grouping.ofChanges, bundled, Grouping.ofBundles, Bundle.toGroup, assemble_twoParts,
      Except.toOption]
  refine ⟨apart, isStale_own_not_sibling settings apart Nat.one_ne_zero ?_ ?_ (by decide) ["unit"]⟩
  · rw [groups]
    rfl
  · rw [groups]
    rfl

end ChangeGate.Round
