import ChangeGate.Proofs.Review.Grouping
import ChangeGate.Review.Fresh

/-!
# What counts as new

Against a record that is not empty, the fresh part of a grouping is made of exactly those groups
and rejected sets with a member the record does not cover. Every such member is in it, as often
as in the whole grouping.
-/

namespace ChangeGate.Review

/-- The record does not cover the change: its number is not recorded, or stands at a lower
patchset. -/
def Change.Unseen (seen : Patchsets) (change : Change) : Prop :=
  ∀ patchset, seen[change.number]? = some patchset → patchset < change.patchset

variable {seen : Patchsets}

theorem Change.isNew_iff (change : Change) : change.isNew seen = true ↔ change.Unseen seen := by
  rw [Change.isNew, Change.Unseen]
  cases seen[change.number]? with
  | none => simp
  | some patchset => simp

/-- The record knows the change of a ref, at its patchset or a later one. -/
def Patchsets.Covers (seen : Patchsets) (ref : ChangeRef) : Prop :=
  ∃ patchset, seen[ref.number]? = some patchset ∧ ref.patchset ≤ patchset

/-- What the record covers is not unseen. -/
theorem Change.Unseen.not_covers {change : Change} (unseen : change.Unseen seen) :
    ¬ seen.Covers change.ref := by
  rintro ⟨patchset, known, atLeast⟩
  exact absurd (unseen patchset known) (UInt64.not_lt.mpr atLeast)

/-- A record that holds a lower patchset of a change does not cover it. -/
theorem Change.unseen_put {change : Change} {ref : ChangeRef} (known : Patchsets)
    (same : ref.number = change.number) (behind : ref.patchset < change.patchset) :
    change.Unseen (known.put ref) := by
  intro patchset recorded
  rw [Patchsets.getElem?_put, if_pos same] at recorded
  rw [← Option.some.inj recorded]
  exact behind

theorem Change.fetchable_iff (change : Change) :
    change.fetchable = true ↔ change.reference ≠ "" := by
  simp [Change.fetchable]

theorem filter_fetchable (listed : List Change) :
    listed.filter (·.fetchable) = listed.filter fun change => change.reference ≠ "" := by
  apply List.filter_congr
  intro change _
  rw [← Bool.coe_iff_coe, change.fetchable_iff, decide_eq_true_eq]

theorem hasNewMember_iff (members : List Change) :
    hasNewMember seen members = true ↔ ∃ change ∈ members, change.Unseen seen := by
  rw [hasNewMember, List.any_eq_true]
  simp only [Change.isNew_iff]

instance (change : Change) : Decidable (change.Unseen seen) :=
  decidable_of_iff _ (Change.isNew_iff change)

namespace Grouping

/-- With a record, what is fresh is what has a member that the record does not cover. -/
theorem fresh_eq (recorded : seen ≠ ∅) (grouping : Grouping) :
    grouping.fresh seen =
      { groups := grouping.groups.filter fun group =>
          ∃ change ∈ group.members, change.Unseen seen
        rejected := grouping.rejected.filter fun set =>
          ∃ change ∈ set.members, change.Unseen seen } := by
  have present : seen.isEmpty = false := by
    rw [← Bool.not_eq_true, Std.ExtTreeMap.isEmpty_iff]
    exact recorded
  rw [Grouping.fresh, freshGroups, present]
  simp only [Bool.false_eq_true, if_false, ← hasNewMember_iff, Bool.decide_eq_true]

/-- Without a record nothing is fresh. -/
theorem fresh_empty (grouping : Grouping) : grouping.fresh ∅ = ⟨[], []⟩ := rfl

end Grouping

/-- Fresh are lists of members of the grouping with one that the record does not cover. -/
theorem Grouping.of_mem_memberLists_fresh {grouping : Grouping} {members : List Change}
    (handed : members ∈ (grouping.fresh seen).memberLists) :
    seen ≠ ∅ ∧ members ∈ grouping.memberLists ∧ ∃ change ∈ members, change.Unseen seen := by
  by_cases recorded : seen = ∅
  · rw [recorded, fresh_empty] at handed
    cases handed
  rw [fresh_eq recorded] at handed
  refine ⟨recorded, ?_⟩
  rcases List.mem_append.mp handed with inGroups | inRejected
  · obtain ⟨group, isFresh, rfl⟩ := List.mem_map.mp inGroups
    obtain ⟨member, isNew⟩ := List.mem_filter.mp isFresh
    exact ⟨mem_memberLists_of_mem_groups member, of_decide_eq_true isNew⟩
  · obtain ⟨set, isFresh, rfl⟩ := List.mem_map.mp inRejected
    obtain ⟨member, isNew⟩ := List.mem_filter.mp isFresh
    exact ⟨List.mem_append_right _ (List.mem_map_of_mem member), of_decide_eq_true isNew⟩

theorem Grouping.eq_nothing_of_memberLists {grouping : Grouping}
    (nothing : grouping.memberLists = []) : grouping = ⟨[], []⟩ := by
  cases grouping with
  | mk groups rejected =>
      obtain ⟨noGroups, noRejected⟩ := List.append_eq_nil_iff.mp nothing
      rw [Grouping.mk.injEq]
      exact ⟨List.map_eq_nil_iff.mp noGroups, List.map_eq_nil_iff.mp noRejected⟩

/-- Where the record covers every member, nothing is fresh. -/
theorem Grouping.fresh_of_covers (grouping : Grouping)
    (covers : ∀ change ∈ grouping.members, seen.Covers change.ref) :
    grouping.fresh seen = ⟨[], []⟩ := by
  apply eq_nothing_of_memberLists
  apply List.eq_nil_iff_forall_not_mem.mpr
  intro members handed
  obtain ⟨-, listed, change, member, unseen⟩ := of_mem_memberLists_fresh handed
  have present : change ∈ grouping.members := by
    rw [← grouping.flatten_memberLists]
    exact List.mem_flatten.mpr ⟨members, listed, member⟩
  exact unseen.not_covers (covers change present)

/-- Leaving out lists without an element does not change how often it occurs. -/
theorem count_flatMap_filter {α : Type} (members : α → List Change) (keeps : α → Bool)
    (change : Change) (all : List α) (kept : ∀ one, change ∈ members one → keeps one = true) :
    ((all.filter keeps).flatMap members).count change = (all.flatMap members).count change := by
  induction all with
  | nil => rfl
  | cons one rest inductionHypothesis =>
      cases keep : keeps one with
      | true =>
          rw [List.filter_cons_of_pos keep, List.flatMap_cons, List.flatMap_cons]
          rw [List.count_append, List.count_append, inductionHypothesis]
      | false =>
          have absent : change ∉ members one := by
            intro member
            rw [kept one member] at keep
            exact absurd keep (by decide)
          rw [List.filter_cons_of_neg (by rw [keep]; decide), List.flatMap_cons]
          rw [List.count_append, List.count_eq_zero.mpr absent, Nat.zero_add]
          exact inductionHypothesis

namespace Grouping

/-- A change that the record does not cover stays in as often as it was there. -/
theorem count_members_fresh (recorded : seen ≠ ∅) (grouping : Grouping) {change : Change}
    (unseen : change.Unseen seen) :
    (grouping.fresh seen).members.count change = grouping.members.count change := by
  rw [fresh_eq recorded, members, members, List.count_append, List.count_append]
  rw [count_flatMap_filter Group.members, count_flatMap_filter RejectedSet.members]
  · intro set member
    exact decide_eq_true ⟨change, member, unseen⟩
  · intro group member
    exact decide_eq_true ⟨change, member, unseen⟩

/-- A change that can be fetched and that the record does not cover is handed on as often as it
is listed. -/
theorem count_fresh_ofChanges (recorded : seen ≠ ∅) (listed : List Change) {change : Change}
    (fetchable : change.fetchable = true) (unseen : change.Unseen seen) :
    ((ofChanges listed).fresh seen).members.count change = listed.count change := by
  rw [count_members_fresh recorded _ unseen, (perm_members_ofChanges listed).count_eq change]
  exact List.count_filter fetchable

/-- Every member of a grouping of changes can be fetched. -/
theorem fetchable_of_mem_ofChanges (listed : List Change) {change : Change}
    (member : change ∈ (ofChanges listed).members) : change.fetchable = true :=
  (List.mem_filter.mp ((perm_members_ofChanges listed).mem_iff.mp member)).2

/-- Members that can be fetched are new where the record does not cover them. -/
theorem exists_unseen_iff {members : List Change}
    (fetchable : ∀ change ∈ members, change.fetchable = true) :
    (∃ change ∈ members, change.Unseen seen) ↔
      ∃ change ∈ members, change.reference ≠ "" ∧ change.Unseen seen := by
  constructor
  · rintro ⟨change, member, unseen⟩
    exact ⟨change, member, (Change.fetchable_iff change).mp (fetchable change member), unseen⟩
  · rintro ⟨change, member, -, unseen⟩
    exact ⟨change, member, unseen⟩

/-- With a record, what is fresh among some changes is what has a member that can be fetched and
that the record does not cover. -/
theorem fresh_ofChanges (recorded : seen ≠ ∅) (listed : List Change) :
    (ofChanges listed).fresh seen =
      { groups := (ofChanges listed).groups.filter fun group =>
          ∃ change ∈ group.members, change.reference ≠ "" ∧ change.Unseen seen
        rejected := (ofChanges listed).rejected.filter fun set =>
          ∃ change ∈ set.members, change.reference ≠ "" ∧ change.Unseen seen } := by
  rw [fresh_eq recorded]
  congr 1
  · apply List.filter_congr
    intro group member
    apply decide_eq_decide.mpr
    apply exists_unseen_iff
    intro change isMember
    apply fetchable_of_mem_ofChanges listed
    exact List.mem_append_left _ (List.mem_flatMap.mpr ⟨group, member, isMember⟩)
  · apply List.filter_congr
    intro set member
    apply decide_eq_decide.mpr
    apply exists_unseen_iff
    intro change isMember
    apply fetchable_of_mem_ofChanges listed
    exact List.mem_append_right _ (List.mem_flatMap.mpr ⟨set, member, isMember⟩)

end Grouping

end ChangeGate.Review
