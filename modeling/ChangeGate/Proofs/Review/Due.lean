import ChangeGate.Proofs.Review.Clusters
import ChangeGate.Proofs.Review.Fresh
import ChangeGate.Review.Landing

/-!
# What is due to land

A group is due when each of its members was asked to land, is cleared to land and has a ref. What
stands in a group that is due stands in no other group and in no rejected set, so nothing of a set
that is broken or not ready as a whole is ever due.
-/

namespace ChangeGate.Review

/-- All members of a group were asked to land, are cleared to land and have a ref. -/
def Group.Due (group : Group) : Prop :=
  ∀ change ∈ group.members,
    change.asksToLand = true ∧ change.submittable = true ∧ change.reference ≠ ""

instance (group : Group) : Decidable group.Due :=
  inferInstanceAs (Decidable (∀ change ∈ group.members, _))

/-- The groups among some changes that are due, in order. -/
def due (changes : List Change) : List Group :=
  (Grouping.ofChanges changes).groups.filter (·.Due)

section
variable {changes : List Change}

/-- A group is made of the changes of a cluster. -/
theorem exists_cluster_of_group {group : Group}
    (found : group ∈ (Grouping.ofChanges changes).groups) :
    ∃ cluster ∈ clusters Change.partTopic? (changes.filter (·.fetchable)),
      cluster.group? = some group := by
  rw [Grouping.ofChanges_eq] at found
  exact List.mem_filterMap.mp found

theorem exists_cluster_of_rejected {rejected : RejectedSet}
    (found : rejected ∈ (Grouping.ofChanges changes).rejected) :
    ∃ cluster ∈ clusters Change.partTopic? (changes.filter (·.fetchable)),
      cluster.rejected? = some rejected := by
  rw [Grouping.ofChanges_eq] at found
  exact List.mem_filterMap.mp found

/-- No group is empty. -/
theorem Grouping.members_ne_nil_of_mem_groups {group : Group}
    (found : group ∈ (Grouping.ofChanges changes).groups) : group.members ≠ [] := by
  obtain ⟨cluster, isCluster, made⟩ := exists_cluster_of_group found
  intro empty
  have same := perm_of_group?_eq_some isCluster made
  rw [empty] at same
  exact members_ne_nil isCluster same.nil_eq.symm

/-- Groups with a member in common are the same. -/
theorem Grouping.group_eq_of_mem {group other : Group} {change : Change}
    (found : group ∈ (Grouping.ofChanges changes).groups)
    (otherFound : other ∈ (Grouping.ofChanges changes).groups) (member : change ∈ group.members)
    (otherMember : change ∈ other.members) : group = other := by
  obtain ⟨cluster, isCluster, made⟩ := exists_cluster_of_group found
  obtain ⟨otherCluster, isOther, otherMade⟩ := exists_cluster_of_group otherFound
  have inCluster := (perm_of_group?_eq_some isCluster made).mem_iff.mp member
  have inOther := (perm_of_group?_eq_some isOther otherMade).mem_iff.mp otherMember
  rw [eq_of_mem_members isCluster isOther inCluster inOther, otherMade] at made
  exact (Option.some.inj made).symm

/-- A member of a group is in no rejected set. -/
theorem Grouping.notMem_rejected {group : Group} {rejected : RejectedSet} {change : Change}
    (found : group ∈ (Grouping.ofChanges changes).groups)
    (otherFound : rejected ∈ (Grouping.ofChanges changes).rejected)
    (member : change ∈ group.members) : change ∉ rejected.members := by
  obtain ⟨cluster, isCluster, made⟩ := exists_cluster_of_group found
  obtain ⟨otherCluster, isOther, otherMade⟩ := exists_cluster_of_rejected otherFound
  intro otherMember
  obtain ⟨same, noGroup⟩ := perm_of_rejected?_eq_some isOther otherMade
  have inCluster := (perm_of_group?_eq_some isCluster made).mem_iff.mp member
  have inOther := same.mem_iff.mp otherMember
  rw [eq_of_mem_members isCluster isOther inCluster inOther, noGroup] at made
  cases made

/-- What may land is what is due. -/
theorem landable_eq_due (changes : List Change) : landable changes = due changes := by
  apply List.filter_congr
  intro group found
  have present := List.isEmpty_eq_false_iff.mpr (Grouping.members_ne_nil_of_mem_groups found)
  rw [Group.readyToLand, present, Bool.not_false, Bool.true_and, Bool.eq_iff_iff]
  rw [decide_eq_true_iff, List.all_eq_true, Group.Due]
  simp only [Change.readyToLand, Bool.and_eq_true, Change.fetchable_iff, and_assoc]

/-- A change is a member of no set that is broken, and of no group that is not ready as a whole. -/
structure Unbroken (changes : List Change) (change : Change) : Prop where
  notRejected : ∀ rejected ∈ (Grouping.ofChanges changes).rejected, change ∉ rejected.members
  groupDue : ∀ group ∈ (Grouping.ofChanges changes).groups, change ∈ group.members → group.Due

/-- The members of a group that is due are unbroken. -/
theorem unbroken_of_due {change : Change} (member : change ∈ (due changes).flatMap (·.members)) :
    Unbroken changes change := by
  obtain ⟨group, isDue, inGroup⟩ := List.mem_flatMap.mp member
  obtain ⟨found, ready⟩ := List.mem_filter.mp isDue
  constructor
  · intro rejected otherFound
    exact Grouping.notMem_rejected found otherFound inGroup
  · intro other otherFound inOther
    rw [← Grouping.group_eq_of_mem found otherFound inGroup inOther]
    exact of_decide_eq_true ready

/-- Refs that are due, up to some place, are those of members of groups that are due, in order. -/
theorem exists_unbroken_of_prefix {references : List String}
    (isPrefix : references <+: (due changes).flatMap (·.references)) :
    ∃ members, members <+: (due changes).flatMap (·.members) ∧
      references = members.map (·.reference) ∧ ∀ change ∈ members, Unbroken changes change := by
  have dueReferences : (due changes).flatMap (·.references) =
      ((due changes).flatMap (·.members)).map (·.reference) := by
    rw [List.map_flatMap]
    rfl
  rw [dueReferences] at isPrefix
  obtain ⟨members, inDue, rfl⟩ := List.prefix_map_iff.mp isPrefix
  exact ⟨members, inDue, rfl, fun change member => unbroken_of_due (inDue.subset member)⟩

end

end ChangeGate.Review
