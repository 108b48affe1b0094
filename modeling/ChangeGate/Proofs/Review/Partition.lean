import ChangeGate.Proofs.Review.Clusters
import ChangeGate.Proofs.Review.Fresh

/-!
# Grouping is a partition

Every change of a list that can be fetched is a member of exactly one group or rejected set, at the
place where it is listed. A change that declares no part is alone in its group, and the changes that
declare parts under one topic stay together. Groups, and likewise rejected sets, stand in the order
in which the first of their members is listed.

A change may be listed more than once, so members are told apart by their places in the list.
-/

namespace ChangeGate.Review

/-- The changes of a list that can be fetched, each with its place. -/
def fetchablePlaces (listed : List Change) : List (Change × Nat) :=
  listed.zipIdx.filter fun place => place.1.fetchable

/-- A grouping as a partition of a list. The lists of places belong to the groups and to the
rejected sets in their order, and hold the places at which the members are listed. -/
structure Partition (listed : List Change) (grouping : Grouping)
    (groups rejected : List (List (Change × Nat))) : Prop where
  /-- No change that can be fetched is lost, doubled or altered. -/
  kept : grouping.members.Perm (listed.filter fun change => change.reference ≠ "")
  /-- Each of them is at one place of one list. -/
  places : (groups ++ rejected).flatten.Perm (fetchablePlaces listed)
  groupMembers :
    List.Forall₂ (fun group places => group.members.Perm (places.map Prod.fst))
      grouping.groups groups
  rejectedMembers :
    List.Forall₂ (fun set places => set.members.Perm (places.map Prod.fst))
      grouping.rejected rejected
  /-- A change that declares no part is a group of its own. -/
  alone : ∀ place ∈ fetchablePlaces listed, place.1.part? = none → [place] ∈ groups
  /-- The parts of a topic are all of one group or all of one rejected set. -/
  together : ∀ topic,
    (∃ place ∈ fetchablePlaces listed, place.1.partTopic? = some topic) →
    (groups ++ rejected).count
      ((fetchablePlaces listed).filter fun place => place.1.partTopic? = some topic) = 1
  nonempty : ∀ group ∈ grouping.groups, group.members ≠ []
  /-- Some member of a group is listed before all members of the groups after it. -/
  groupOrder : groups.Pairwise fun first later =>
    ∃ place ∈ first, ∀ other ∈ later, place.2 < other.2
  rejectedOrder : rejected.Pairwise fun first later =>
    ∃ place ∈ first, ∀ other ∈ later, place.2 < other.2

/-- What a list is filtered and mapped to goes along with the elements that it comes from. -/
theorem forall₂_filterMap {α β γ : Type} {made : α → Option β} {source : α → γ}
    {related : β → γ → Prop} {list : List α}
    (relates : ∀ element ∈ list, ∀ image, made element = some image →
      related image (source element)) :
    List.Forall₂ related (list.filterMap made)
      ((list.filter fun element => (made element).isSome).map source) := by
  induction list with
  | nil => exact List.Forall₂.nil
  | cons first rest inductionHypothesis =>
      have others := inductionHypothesis fun element member =>
        relates element (List.mem_cons_of_mem first member)
      cases isMade : made first with
      | none =>
          rw [List.filterMap_cons_none isMade, List.filter_cons_of_neg (by simp [isMade])]
          exact others
      | some image =>
          rw [List.filterMap_cons_some isMade, List.filter_cons_of_pos (by simp [isMade])]
          exact List.Forall₂.cons (relates first List.mem_cons_self image isMade) others

theorem map_fst_fetchablePlaces (listed : List Change) :
    (fetchablePlaces listed).map Prod.fst = listed.filter (·.fetchable) := by
  have changes := congrArg (List.filter (·.fetchable)) (List.zipIdx_map_fst 0 listed)
  rw [List.filter_map] at changes
  exact changes

theorem fetchablePlaces_pairwise (listed : List Change) :
    (fetchablePlaces listed).Pairwise fun first later => first.2 < later.2 := by
  apply List.Pairwise.filter
  apply List.pairwise_map.mp
  rw [List.zipIdx_map_snd]
  exact List.pairwise_lt_range' 1

section
variable (listed : List Change)

/-- The clusters of the places of a list. -/
def placeClusters : List (Cluster String (Change × Nat)) :=
  clusters (Change.partTopic? ∘ Prod.fst) (fetchablePlaces listed)

theorem map_fst_placeClusters :
    clusters Change.partTopic? (listed.filter (·.fetchable)) =
      (placeClusters listed).map (Cluster.map Prod.fst) := by
  rw [← map_fst_fetchablePlaces, clusters_map]
  rfl

variable {listed} in
theorem map_fst_mem {cluster : Cluster String (Change × Nat)}
    (found : cluster ∈ placeClusters listed) :
    cluster.map Prod.fst ∈ clusters Change.partTopic? (listed.filter (·.fetchable)) := by
  rw [map_fst_placeClusters]
  exact List.mem_map_of_mem found

def groupPlaces : List (List (Change × Nat)) :=
  ((placeClusters listed).filter fun cluster => (cluster.map Prod.fst).group?.isSome).map
    Cluster.members

def rejectedPlaces : List (List (Change × Nat)) :=
  ((placeClusters listed).filter fun cluster => (cluster.map Prod.fst).rejected?.isSome).map
    Cluster.members

/-- Each cluster is a group or a rejected set. -/
theorem perm_groupPlaces_append_rejectedPlaces :
    (groupPlaces listed ++ rejectedPlaces listed).Perm
      ((placeClusters listed).map Cluster.members) := by
  have others : (placeClusters listed).filter (fun cluster =>
        (cluster.map Prod.fst).rejected?.isSome) =
      (placeClusters listed).filter fun cluster => !(cluster.map Prod.fst).group?.isSome :=
    List.filter_congr fun cluster found => isSome_rejected? (map_fst_mem found)
  rw [groupPlaces, rejectedPlaces, others, ← List.map_append]
  exact (List.filter_append_perm _ _).map _

/-- Some place of a cluster comes before all places of the clusters after it. -/
theorem placeClusters_pairwise :
    (placeClusters listed).Pairwise fun first later =>
      ∃ place ∈ first.members, ∀ other ∈ later.members, place.2 < other.2 :=
  clusters_pairwise (fetchablePlaces_pairwise listed)

/-- No two clusters have the same places. -/
theorem nodup_map_members : ((placeClusters listed).map Cluster.members).Nodup := by
  rw [List.Nodup, List.pairwise_map]
  refine (placeClusters_pairwise listed).imp ?_
  rintro first later ⟨place, member, leads⟩ same
  exact Nat.lt_irrefl _ (leads place (same ▸ member))

/-- Grouping a list of changes is a partition of it. -/
theorem exists_partition :
    ∃ groups rejected, Partition listed (Grouping.ofChanges listed) groups rejected := by
  have grouping := Grouping.ofChanges_eq listed
  rw [map_fst_placeClusters] at grouping
  simp only [List.filterMap_map] at grouping
  have perm := perm_groupPlaces_append_rejectedPlaces listed
  refine ⟨groupPlaces listed, rejectedPlaces listed, ?_, ?_, ?_, ?_, ?_, ?_, ?_, ?_, ?_⟩
  · have sameChanges : listed.filter (fun change => change.reference ≠ "") =
        listed.filter (·.fetchable) := by
      apply List.filter_congr
      intro change _
      rw [← Bool.coe_iff_coe, decide_eq_true_eq, change.fetchable_iff]
    rw [sameChanges]
    exact Grouping.perm_members_ofChanges listed
  · refine perm.flatten.trans ?_
    rw [← List.flatMap_def]
    exact perm_flatMap_members _ _
  · rw [grouping]
    apply forall₂_filterMap
    intro cluster found group made
    rw [← Cluster.members_map]
    exact perm_of_group?_eq_some (map_fst_mem found) made
  · rw [grouping]
    apply forall₂_filterMap
    intro cluster found set made
    rw [← Cluster.members_map]
    exact (perm_of_rejected?_eq_some (map_fst_mem found) made).1
  · intro place member noPart
    have found : .alone place ∈ placeClusters listed :=
      mem_clusters_iff.mpr (Or.inl ⟨place, member, place.1.partTopic?_eq_none_iff.mpr noPart, rfl⟩)
    exact List.mem_map.mpr ⟨_, List.mem_filter.mpr ⟨found, rfl⟩, rfl⟩
  · intro topic declared
    have found := mem_clusters_iff.mpr (Or.inr ⟨topic, declared, rfl⟩)
    rw [perm.count_eq]
    exact List.count_eq_one_of_mem (nodup_map_members listed) (List.mem_map_of_mem found)
  · intro group member
    rw [grouping] at member
    obtain ⟨cluster, found, made⟩ := List.mem_filterMap.mp member
    have filled := members_ne_nil (map_fst_mem found)
    intro empty
    have noMembers := perm_of_group?_eq_some (map_fst_mem found) made
    rw [empty] at noMembers
    exact filled noMembers.symm.eq_nil
  · exact List.pairwise_map.mpr ((placeClusters_pairwise listed).filter _)
  · exact List.pairwise_map.mpr ((placeClusters_pairwise listed).filter _)

end

end ChangeGate.Review
