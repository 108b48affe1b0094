import ChangeGate.Proofs.Review.Clusters
import ChangeGate.Proofs.Review.Parts
import ChangeGate.Proofs.Review.Fresh
import ChangeGate.Proofs.SeenLog
import ChangeGate.Review.Landing

/-!
# Listing changes in another order

The order in which changes are listed decides the order of the groups and nothing else about them:
the groups, those of them that are new, those that may land, and the record are the same.
-/

namespace ChangeGate.Review

variable {listed other : List Change}

/-- The group of the parts that are declared under a topic does not depend on their order. -/
theorem group?_keyed_congr (topic : String) (same : listed.Perm other) :
    (Cluster.keyed topic listed).group? = (Cluster.keyed topic other).group? :=
  assemble_toOption_congr topic (same.filterMap _)

/-- The groups of a reordered list are the same, in some order. -/
theorem perm_groups_ofChanges (same : listed.Perm other) :
    (Grouping.ofChanges listed).groups.Perm (Grouping.ofChanges other).groups := by
  have fetched := same.filter (·.fetchable)
  let keyedIn (changes : List Change) (topic : String) : Cluster String Change :=
    .keyed topic (changes.filter fun change => change.partTopic? = some topic)
  -- Alone are the same changes, and the same topics make the same groups.
  have alone := (fetched.filter fun change => change.partTopic? = none).map
    (Cluster.alone : Change → Cluster String Change)
  have keyed : (((listed.filter (·.fetchable)).filterMap (·.partTopic?)).dedup.map
        (keyedIn (listed.filter (·.fetchable)))).filterMap Cluster.group? |>.Perm
      ((((other.filter (·.fetchable)).filterMap (·.partTopic?)).dedup.map
        (keyedIn (other.filter (·.fetchable)))).filterMap Cluster.group?) := by
    rw [List.filterMap_map, List.filterMap_map]
    have sameGroups : Cluster.group? ∘ keyedIn (listed.filter (·.fetchable)) =
        Cluster.group? ∘ keyedIn (other.filter (·.fetchable)) :=
      funext fun topic => group?_keyed_congr topic (fetched.filter _)
    rw [sameGroups]
    exact (fetched.filterMap _).dedup.filterMap _
  rw [Grouping.ofChanges_eq, Grouping.ofChanges_eq]
  calc (clusters Change.partTopic? (listed.filter (·.fetchable))).filterMap Cluster.group?
    _ |>.Perm _ := (perm_clusters _ _).filterMap _
    _ |>.Perm _ := by
      rw [List.filterMap_append, List.filterMap_append]
      exact (alone.filterMap _).append keyed
    _ |>.Perm _ := ((perm_clusters _ _).filterMap _).symm

/-- So are those of them that are new against a record. -/
theorem perm_groups_fresh (seen : Patchsets) (same : listed.Perm other) :
    ((Grouping.ofChanges listed).fresh seen).groups.Perm
      ((Grouping.ofChanges other).fresh seen).groups := by
  by_cases recorded : seen = ∅
  · rw [recorded, Grouping.fresh_empty, Grouping.fresh_empty]
  · rw [Grouping.fresh_eq recorded, Grouping.fresh_eq recorded]
    exact (perm_groups_ofChanges same).filter _

/-- So are those of them that may land. -/
theorem perm_landable (same : listed.Perm other) : (landable listed).Perm (landable other) :=
  (perm_groups_ofChanges same).filter _

/-- The members of a group that may land are listed. -/
theorem mem_of_mem_landable {group : Group} {change : Change} (lands : group ∈ landable listed)
    (member : change ∈ group.members) : change ∈ listed := by
  have grouped : change ∈ (Grouping.ofChanges listed).members :=
    List.mem_append_left _ (List.mem_flatMap.mpr ⟨group, (List.mem_filter.mp lands).1, member⟩)
  have fetched := (Grouping.perm_members_ofChanges listed).mem_iff.mp grouped
  exact (List.mem_filter.mp fetched).1

/-- The highest patchsets do not depend on the order of the refs. -/
theorem Patchsets.highest_congr {refs others : List ChangeRef} (same : refs.Perm others) :
    highest refs = highest others :=
  highest_eq_of_mem_iff fun _ => same.mem_iff

end ChangeGate.Review

namespace ChangeGate.SeenLog

open ChangeGate.Review

/-- The record of a reordered list is the same. -/
theorem record_congr {listed other : List Change} (same : listed.Perm other) :
    record listed = record other :=
  Patchsets.highest_congr ((same.filter _).map _)

end ChangeGate.SeenLog
