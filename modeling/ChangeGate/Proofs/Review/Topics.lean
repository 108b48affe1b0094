import ChangeGate.Proofs.Review.Clusters
import ChangeGate.Proofs.Review.Parts

/-!
# What becomes of a topic

The parts that are declared under one topic make exactly one group when they are complete and
exactly one rejected set otherwise, which says what is wrong with them. Nothing else in the list has
a say in it.
-/

namespace ChangeGate.Review

/-- The parts that the changes of a list declare under a topic, in order. Changes that cannot be
fetched are left out. -/
def partsUnder (topic : String) (listed : List Change) : List Part :=
  ((listed.filter (·.fetchable)).filter fun change => change.partTopic? = some topic).filterMap
    (·.toPart?)

def declareUnder (topic : String) (changes : List Change) : Bool :=
  changes.any fun change => change.partTopic? = some topic

/-- The groups and rejected sets of a grouping that have a part of a topic among their members. -/
def Grouping.under (topic : String) (grouping : Grouping) : Grouping where
  groups := grouping.groups.filter fun group => declareUnder topic group.members
  rejected := grouping.rejected.filter fun set => declareUnder topic set.members

/-- A grouping of nothing but what became of one set of parts. -/
def Grouping.ofOutcome : Except RejectedSet Group → Grouping
  | .ok group => ⟨[group], []⟩
  | .error rejected => ⟨[], [rejected]⟩

theorem declareUnder_congr {topic : String} {members other : List Change}
    (perm : members.Perm other) : declareUnder topic members = declareUnder topic other :=
  perm.any_eq

/-- A cluster declares parts under its own topic and no other. -/
theorem declareUnder_members {topic : String} {listed : List Change}
    {cluster : Cluster String Change} (found : cluster ∈ clusters Change.partTopic? listed) :
    declareUnder topic cluster.members = decide (cluster.key? = some topic) := by
  rw [declareUnder, ← Bool.coe_iff_coe, List.any_eq_true]
  simp only [decide_eq_true_eq]
  rcases mem_clusters_iff.mp found with ⟨change, -, keyless, rfl⟩ | ⟨shared, declared, rfl⟩
  · simp [Cluster.members, Cluster.key?, keyless]
  · simp only [Cluster.members, Cluster.key?, List.mem_filter, decide_eq_true_eq]
    constructor
    · rintro ⟨change, ⟨-, isShared⟩, isTopic⟩
      exact isShared.symm.trans isTopic
    · intro same
      obtain ⟨change, member, isShared⟩ := declared
      exact ⟨change, ⟨member, isShared⟩, isShared.trans same⟩

/-- Filtering what is made of some elements is filtering the elements, where the two filters
agree. -/
theorem filter_filterMap_of_agree {α β : Type} {made : α → Option β} {keeps : β → Bool}
    (keepsSource : α → Bool) {list : List α}
    (agree : ∀ element ∈ list, ∀ image, made element = some image →
      keeps image = keepsSource element) :
    (list.filterMap made).filter keeps = (list.filter keepsSource).filterMap made := by
  rw [List.filter_filterMap, List.filterMap_filter]
  apply List.filterMap_congr
  intro element member
  cases isMade : made element with
  | none => simp
  | some image => simp [Option.filter, agree element member image isMade]

section
variable {topic : String} {listed : List Change}

theorem under_ofChanges (declared : partsUnder topic listed ≠ []) :
    (Grouping.ofChanges listed).under topic =
      .ofOutcome (assemble topic (partsUnder topic listed)) := by
  have present : ∃ change ∈ listed.filter (·.fetchable), change.partTopic? = some topic := by
    obtain ⟨part, member⟩ := List.exists_mem_of_ne_nil _ declared
    obtain ⟨change, isDeclared, -⟩ := List.mem_filterMap.mp member
    obtain ⟨isListed, isTopic⟩ := List.mem_filter.mp isDeclared
    exact ⟨change, isListed, of_decide_eq_true isTopic⟩
  let found := clusters Change.partTopic? (listed.filter (·.fetchable))
  let isTopic := fun cluster : Cluster String Change => decide (cluster.key? = some topic)
  have groups : (found.filterMap Cluster.group?).filter
      (fun group => declareUnder topic group.members) =
        (found.filter isTopic).filterMap Cluster.group? := by
    apply filter_filterMap_of_agree
    intro cluster isCluster group made
    rw [declareUnder_congr (perm_of_group?_eq_some isCluster made), declareUnder_members isCluster]
  have rejected : (found.filterMap Cluster.rejected?).filter
      (fun set => declareUnder topic set.members) =
        (found.filter isTopic).filterMap Cluster.rejected? := by
    apply filter_filterMap_of_agree
    intro cluster isCluster set made
    rw [declareUnder_congr (perm_of_rejected?_eq_some isCluster made).1,
      declareUnder_members isCluster]
  rw [Grouping.ofChanges_eq, Grouping.under, groups, rejected, filter_key?_clusters topic present]
  -- The one cluster left makes the group or the rejected set of its parts.
  simp only [List.filterMap_cons, List.filterMap_nil, Cluster.group?, Cluster.rejected?,
    Bundle.ofCluster, Bundle.toGroup]
  rw [← partsUnder]
  cases assemble topic (partsUnder topic listed) with
  | ok group => rfl
  | error rejected => rfl

end

/-- What becomes of the parts of a topic. -/
structure TopicOutcome (topic : String) (listed : List Change) : Prop where
  /-- There is a group for them exactly when they are complete. -/
  accepted : ((Grouping.ofChanges listed).under topic).groups ≠ [] ↔
    Complete (partsUnder topic listed)
  /-- A complete set makes one group, which lists its members by index from one. -/
  group : Complete (partsUnder topic listed) →
    ∃ sorted, sorted.Perm (partsUnder topic listed) ∧ InPlace sorted ∧
      (Grouping.ofChanges listed).under topic = ⟨[⟨sorted.map (·.change)⟩], []⟩
  /-- Any other set makes one rejected set, which lists its members by index and says what is wrong
  with them. -/
  rejectedSet : ¬ Complete (partsUnder topic listed) →
    ∃ sorted rejected, StablySorted (partsUnder topic listed) sorted ∧
      Rejects topic (partsUnder topic listed) sorted rejected ∧
      (Grouping.ofChanges listed).under topic = ⟨[], [rejected]⟩
  /-- Nothing but the parts of the topic has a say in it. -/
  onlyParts : ∀ other, partsUnder topic other = partsUnder topic listed →
    (Grouping.ofChanges other).under topic = (Grouping.ofChanges listed).under topic

/-- The parts of a topic are a group exactly when they are complete, and are told what is wrong with
them otherwise. -/
theorem topicOutcome_of_declared (topic : String) (listed : List Change)
    (declared : partsUnder topic listed ≠ []) : TopicOutcome topic listed where
  accepted := by
    rw [under_ofChanges declared]
    by_cases complete : Complete (partsUnder topic listed)
    · rw [(assemble_of_complete topic complete).1]
      exact iff_of_true (List.cons_ne_nil _ _) complete
    · obtain ⟨rejected, isRejected, -⟩ := assemble_of_not_complete topic complete
      rw [isRejected]
      exact iff_of_false (fun accepted => accepted rfl) complete
  group complete := by
    obtain ⟨accepted, inPlace⟩ := assemble_of_complete topic complete
    refine ⟨_, (stablySorted_sortParts _).perm, inPlace, ?_⟩
    rw [under_ofChanges declared, accepted]
    rfl
  rejectedSet broken := by
    obtain ⟨rejected, isRejected, rejects⟩ := assemble_of_not_complete topic broken
    refine ⟨_, rejected, stablySorted_sortParts _, rejects, ?_⟩
    rw [under_ofChanges declared, isRejected]
    rfl
  onlyParts other same := by
    rw [under_ofChanges declared, ← same, under_ofChanges (same ▸ declared)]

/-- Two parts of two that are listed in the wrong order, around another change, make a group. -/
theorem topicOutcome_of_two_parts :
    let second : Change := { number := 20, patchset := 1, message := "MultiPart: 2/2" }
    let other : Change := { number := 15, patchset := 1 }
    let first : Change := { number := 10, patchset := 1, message := "MultiPart: 1/2" }
    partsUnder "" [second, other, first] ≠ [] ∧
      ((Grouping.ofChanges [second, other, first]).under "").groups ≠ [] := by
  intro second other first
  have parts : partsUnder "" [second, other, first] = [⟨⟨2, 2⟩, second⟩, ⟨⟨1, 2⟩, first⟩] := by
    decide
  have declared : partsUnder "" [second, other, first] ≠ [] := parts ▸ List.cons_ne_nil _ _
  refine ⟨declared, (topicOutcome_of_declared "" _ declared).accepted.mpr ?_⟩
  rw [parts]
  exact ⟨2, by decide⟩

end ChangeGate.Review
