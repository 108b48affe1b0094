import ChangeGate.Proofs.Review.Grouping
import Mathlib.Data.List.Dedup
import Mathlib.Data.List.Perm.Basic

/-!
# Clusters

A list falls into clusters by a key that only some of its elements have. An element without a key
is a cluster of its own. The elements that share a key form one cluster, in their order, and it
stands where the first of them is listed. The bundles of a list of changes are its clusters by the
topic that a part is declared under.
-/

namespace ChangeGate.Review

/-- An element without a key, or elements that share one. -/
inductive Cluster (κ α : Type) where
  | alone (element : α)
  | keyed (key : κ) (elements : List α)

namespace Cluster

variable {α β κ : Type}

/-- The elements of a cluster, in order. -/
def members : Cluster κ α → List α
  | .alone element => [element]
  | .keyed _ elements => elements

/-- The key that the elements of a cluster share, if they have one. -/
def key? : Cluster κ α → Option κ
  | .alone _ => none
  | .keyed key _ => some key

def map (image : α → β) : Cluster κ α → Cluster κ β
  | .alone element => .alone (image element)
  | .keyed key elements => .keyed key (elements.map image)

@[simp] theorem members_map (image : α → β) (cluster : Cluster κ α) :
    (cluster.map image).members = cluster.members.map image := by
  cases cluster with
  | _ => rfl

end Cluster

section
variable {α β κ : Type} [DecidableEq κ]

/-- The clusters of a list, in the order in which their first elements are listed. -/
def clusters (key : α → Option κ) : List α → List (Cluster κ α)
  | [] => []
  | first :: rest =>
      match key first with
      | none => .alone first :: clusters key rest
      | some shared =>
          .keyed shared (first :: rest.filter fun other => key other = some shared) ::
            clusters key (rest.filter fun other => key other ≠ some shared)
termination_by list => list.length
decreasing_by
  · exact Nat.lt_succ_self rest.length
  · rw [List.length_unattach]
    exact Nat.lt_succ_of_le
      (Nat.le_trans (List.length_filter_le _ _) (Nat.le_of_eq List.length_attach))

variable {key : α → Option κ}

theorem clusters_cons_of_none {first : α} (rest : List α) (keyless : key first = none) :
    clusters key (first :: rest) = .alone first :: clusters key rest := by
  rw [clusters, keyless]

theorem clusters_cons_of_some {first : α} (rest : List α) {shared : κ}
    (declared : key first = some shared) :
    clusters key (first :: rest) =
      .keyed shared (first :: rest.filter fun other => key other = some shared) ::
        clusters key (rest.filter fun other => key other ≠ some shared) := by
  rw [clusters, declared]

/-- To prove something of all lists by way of their clusters: the first element is alone, or its
cluster is taken out of the list. -/
theorem clusters_induction {motive : List α → Prop} (key : α → Option κ) (nil : motive [])
    (alone : ∀ first rest, key first = none → motive rest → motive (first :: rest))
    (keyed : ∀ first rest shared, key first = some shared →
      motive (rest.filter fun other => key other ≠ some shared) → motive (first :: rest))
    (list : List α) : motive list := by
  match list with
  | [] => exact nil
  | first :: rest =>
      cases declared : key first with
      | none => exact alone first rest declared (clusters_induction key nil alone keyed rest)
      | some shared =>
          exact keyed first rest shared declared (clusters_induction key nil alone keyed _)
termination_by list.length
decreasing_by
  · exact Nat.lt_succ_self rest.length
  · exact Nat.lt_succ_of_le (List.length_filter_le _ rest)

/-! ## Which clusters there are -/

/-- Taking out one key leaves the elements of every other key. -/
theorem filter_filter_key_ne {shared other : κ} (different : other ≠ shared) (list : List α) :
    (list.filter fun element => key element ≠ some shared).filter
        (fun element => key element = some other) =
      list.filter fun element => key element = some other := by
  rw [List.filter_filter]
  apply List.filter_congr
  intro element _
  by_cases isOther : key element = some other
  · simp [isOther, different]
  · simp [isOther]

theorem filter_filter_key_none (shared : κ) (list : List α) :
    (list.filter fun element => key element ≠ some shared).filter
        (fun element => key element = none) =
      list.filter fun element => key element = none := by
  rw [List.filter_filter]
  apply List.filter_congr
  intro element _
  by_cases keyless : key element = none
  · simp [keyless]
  · simp [keyless]

/-- The keys left when one is taken out. -/
theorem mem_filterMap_filter_key_ne {shared other : κ} (list : List α) :
    other ∈ (list.filter fun element => key element ≠ some shared).filterMap key ↔
      other ∈ list.filterMap key ∧ other ≠ shared := by
  simp only [List.mem_filterMap, List.mem_filter, decide_eq_true_eq]
  constructor
  · rintro ⟨element, ⟨member, kept⟩, declared⟩
    exact ⟨⟨element, member, declared⟩, fun same => kept (same ▸ declared)⟩
  · rintro ⟨⟨element, member, declared⟩, different⟩
    refine ⟨element, ⟨member, ?_⟩, declared⟩
    rw [declared]
    exact fun same => different (Option.some.inj same)

/-- The keys of a list are that of the first element and those left when it is taken out. -/
theorem perm_dedup_filterMap_cons {first : α} (rest : List α) {shared : κ}
    (declared : key first = some shared) :
    ((first :: rest).filterMap key).dedup.Perm
      (shared :: ((rest.filter fun other => key other ≠ some shared).filterMap key).dedup) := by
  rw [List.perm_ext_iff_of_nodup (List.nodup_dedup _)]
  · intro other
    rw [List.mem_dedup, List.filterMap_cons_some declared, List.mem_cons, List.mem_cons,
      List.mem_dedup, mem_filterMap_filter_key_ne]
    by_cases same : other = shared
    · simp [same]
    · simp [same]
  · rw [List.nodup_cons, List.mem_dedup, mem_filterMap_filter_key_ne]
    exact ⟨fun member => member.2 rfl, List.nodup_dedup _⟩

/-- The clusters are those of the elements without a key and one for each key, up to their
order. -/
theorem perm_clusters (key : α → Option κ) (list : List α) :
    (clusters key list).Perm
      ((list.filter fun element => key element = none).map .alone ++
        (list.filterMap key).dedup.map fun shared =>
          .keyed shared (list.filter fun element => key element = some shared)) := by
  induction list using clusters_induction key with
  | nil => simp [clusters]
  | alone first rest keyless inductionHypothesis =>
      have notKeyed (shared : κ) : key first ≠ some shared := by simp [keyless]
      rw [clusters_cons_of_none rest keyless]
      simpa [keyless] using inductionHypothesis
  | keyed first rest shared declared inductionHypothesis =>
      rw [clusters_cons_of_some rest declared]
      -- The clusters of the other keys lose nothing when the first one is taken out.
      have others : ((rest.filter fun other => key other ≠ some shared).filterMap key).dedup.map
            (fun other => Cluster.keyed other
              ((first :: rest).filter fun element => key element = some other)) =
          ((rest.filter fun other => key other ≠ some shared).filterMap key).dedup.map
            (fun other => Cluster.keyed other
              ((rest.filter fun other => key other ≠ some shared).filter
                fun element => key element = some other)) := by
        apply List.map_congr_left
        intro other member
        have different : other ≠ shared :=
          ((mem_filterMap_filter_key_ne rest).mp (List.mem_dedup.mp member)).2
        rw [filter_filter_key_ne different]
        rw [List.filter_cons_of_neg]
        simp [declared, Ne.symm different]
      have keyless : (first :: rest).filter (fun element => key element = none) =
          (rest.filter fun other => key other ≠ some shared).filter
            fun element => key element = none := by
        rw [filter_filter_key_none, List.filter_cons_of_neg (by simp [declared])]
      have keys := (perm_dedup_filterMap_cons rest declared).map fun other =>
        Cluster.keyed other ((first :: rest).filter fun element => key element = some other)
      refine List.Perm.trans ?_ (keys.append_left _).symm
      rw [List.map_cons, others, keyless, List.filter_cons_of_pos (by simp [declared])]
      exact (inductionHypothesis.cons _).trans List.perm_middle.symm

/-- A cluster holds an element without a key, or all elements that have its key. -/
theorem mem_clusters_iff {list : List α} {cluster : Cluster κ α} :
    cluster ∈ clusters key list ↔
      (∃ element ∈ list, key element = none ∧ cluster = .alone element) ∨
        ∃ shared, (∃ element ∈ list, key element = some shared) ∧
          cluster = .keyed shared (list.filter fun element => key element = some shared) := by
  rw [(perm_clusters key list).mem_iff, List.mem_append]
  constructor
  · rintro (isAlone | isKeyed)
    · obtain ⟨element, member, rfl⟩ := List.mem_map.mp isAlone
      obtain ⟨listed, keyless⟩ := List.mem_filter.mp member
      exact Or.inl ⟨element, listed, of_decide_eq_true keyless, rfl⟩
    · obtain ⟨shared, member, rfl⟩ := List.mem_map.mp isKeyed
      exact Or.inr ⟨shared, List.mem_filterMap.mp (List.mem_dedup.mp member), rfl⟩
  · rintro (⟨element, listed, keyless, rfl⟩ | ⟨shared, declared, rfl⟩)
    · exact Or.inl (List.mem_map_of_mem (List.mem_filter.mpr ⟨listed, decide_eq_true keyless⟩))
    · exact Or.inr (List.mem_map_of_mem (List.mem_dedup.mpr (List.mem_filterMap.mpr declared)))

/-- The cluster of an element is determined by its key. -/
theorem eq_of_mem_members {list : List α} {cluster other : Cluster κ α}
    (found : cluster ∈ clusters key list) (otherFound : other ∈ clusters key list) {element : α}
    (member : element ∈ cluster.members) (otherMember : element ∈ other.members) :
    cluster = other := by
  have determined {cluster : Cluster κ α} (found : cluster ∈ clusters key list)
      (member : element ∈ cluster.members) :
      cluster =
        match key element with
        | none => .alone element
        | some shared => .keyed shared (list.filter fun other => key other = some shared) := by
    rcases mem_clusters_iff.mp found with ⟨alone, -, keyless, rfl⟩ | ⟨shared, -, rfl⟩
    · rw [List.mem_singleton.mp member, keyless]
    · have declared : key element = some shared := by simpa using (List.mem_filter.mp member).2
      rw [declared]
  rw [determined found member, determined otherFound otherMember]

/-- The clusters hold every element of the list, as often as it is listed. -/
theorem perm_flatMap_members (key : α → Option κ) (list : List α) :
    ((clusters key list).flatMap Cluster.members).Perm list := by
  induction list using clusters_induction key with
  | nil =>
      rw [clusters]
      exact List.Perm.refl []
  | alone first rest keyless inductionHypothesis =>
      rw [clusters_cons_of_none rest keyless, List.flatMap_cons]
      exact inductionHypothesis.cons first
  | keyed first rest shared declared inductionHypothesis =>
      rw [clusters_cons_of_some rest declared, List.flatMap_cons]
      refine List.Perm.cons first ((inductionHypothesis.append_left _).trans ?_)
      simpa using List.filter_append_perm (fun other => decide (key other = some shared)) rest

/-- Each cluster has an element that is listed before all elements of the clusters after it. -/
theorem clusters_pairwise {before : α → α → Prop} {list : List α} (ordered : list.Pairwise before) :
    (clusters key list).Pairwise fun first later =>
      ∃ element ∈ first.members, ∀ other ∈ later.members, before element other := by
  induction list using clusters_induction key with
  | nil =>
      rw [clusters]
      exact List.Pairwise.nil
  | alone first rest keyless inductionHypothesis =>
      obtain ⟨leads, orderedRest⟩ := List.pairwise_cons.mp ordered
      rw [clusters_cons_of_none rest keyless]
      refine List.pairwise_cons.mpr ⟨?_, inductionHypothesis orderedRest⟩
      intro later member
      refine ⟨first, List.mem_singleton_self first, ?_⟩
      intro other isOther
      apply leads
      exact (perm_flatMap_members key rest).mem_iff.mp
        (List.mem_flatMap.mpr ⟨later, member, isOther⟩)
  | keyed first rest shared declared inductionHypothesis =>
      obtain ⟨leads, orderedRest⟩ := List.pairwise_cons.mp ordered
      rw [clusters_cons_of_some rest declared]
      refine List.pairwise_cons.mpr ⟨?_, inductionHypothesis (orderedRest.filter _)⟩
      intro later member
      refine ⟨first, List.mem_cons_self, ?_⟩
      intro other isOther
      have remains := (perm_flatMap_members key _).mem_iff.mp
        (List.mem_flatMap.mpr ⟨later, member, isOther⟩)
      exact leads other (List.mem_filter.mp remains).1

theorem clusters_map (key : β → Option κ) (image : α → β) (list : List α) :
    clusters key (list.map image) =
      (clusters (key ∘ image) list).map (Cluster.map image) := by
  induction list using clusters_induction (key ∘ image) with
  | nil =>
      rw [List.map_nil, clusters, clusters]
      rfl
  | alone first rest keyless inductionHypothesis =>
      rw [List.map_cons, clusters_cons_of_none rest keyless]
      rw [clusters_cons_of_none (rest.map image) keyless, inductionHypothesis]
      rfl
  | keyed first rest shared declared inductionHypothesis =>
      rw [List.map_cons, clusters_cons_of_some rest declared]
      rw [clusters_cons_of_some (rest.map image) declared, List.filter_map, List.filter_map]
      exact congrArg _ inductionHypothesis

/-- The cluster of a key is the only one that has it. -/
theorem filter_key?_clusters (shared : κ) {list : List α}
    (present : ∃ element ∈ list, key element = some shared) :
    (clusters key list).filter (fun cluster => cluster.key? = some shared) =
      [.keyed shared (list.filter fun element => key element = some shared)] := by
  have kept := (perm_clusters key list).filter fun cluster => cluster.key? = some shared
  have noneAlone : ((list.filter fun element => key element = none).map Cluster.alone).filter
      (fun cluster => cluster.key? = some shared) = [] := by
    rw [List.filter_map, List.map_eq_nil_iff]
    exact List.filter_eq_nil_iff.mpr fun element _ => by simp [Cluster.key?]
  have once : ((list.filterMap key).dedup.filter fun other => other = shared) = [shared] := by
    rw [List.filter_eq, List.count_dedup, if_pos (List.mem_filterMap.mpr present)]
    rfl
  have oneKeyed : (((list.filterMap key).dedup.map fun other =>
      Cluster.keyed other (list.filter fun element => key element = some other)).filter
        (fun cluster => cluster.key? = some shared)) =
      [.keyed shared (list.filter fun element => key element = some shared)] := by
    rw [List.filter_map]
    simp only [Function.comp_def, Cluster.key?, Option.some.injEq, once]
    rfl
  rw [List.filter_append, noneAlone, oneKeyed] at kept
  exact List.perm_singleton.mp kept

end

/-! ## Bundles -/

namespace Change

/-- The topic that a change declares a part under; no topic counts as the empty one. -/
def partTopic? (change : Change) : Option String :=
  change.part?.map fun _ => change.topic.getD ""

/-- The part that a change declares, if it declares one. -/
def toPart? (change : Change) : Option Part :=
  change.part?.map (⟨·, change⟩)

theorem toPart?_eq_some {change : Change} {marker : PartMarker}
    (marked : change.part? = some marker) : change.toPart? = some ⟨marker, change⟩ := by
  rw [toPart?, marked, Option.map_some]

theorem partTopic?_eq_none_iff (change : Change) :
    change.partTopic? = none ↔ change.part? = none :=
  Option.map_eq_none_iff

end Change

namespace Bundle

/-- The bundle of changes that are alone or declare parts under one topic. -/
def ofCluster : Cluster String Change → Bundle
  | .alone change => .alone change
  | .keyed topic changes => .set topic (changes.filterMap (·.toPart?))

/-- A change alone stays as it is when others are added. -/
theorem foldl_add_alone (listed : List Change) (change : Change) (bundles : List Bundle) :
    listed.foldl add (.alone change :: bundles) = .alone change :: listed.foldl add bundles := by
  induction listed generalizing bundles with
  | nil => rfl
  | cons first rest inductionHypothesis =>
      have added : add (.alone change :: bundles) first = .alone change :: add bundles first := by
        rw [add, add]
        cases first.part? with
        | none => rfl
        | some marker => rfl
      rw [List.foldl_cons, added, inductionHypothesis, List.foldl_cons]

/-- A set takes the parts of its topic when others are added, and leaves the rest to the bundles
after it. -/
theorem foldl_add_set (listed : List Change) (topic : String) (parts : List Part)
    (bundles : List Bundle) :
    listed.foldl add (.set topic parts :: bundles) =
      .set topic (parts ++
          (listed.filter fun change => change.partTopic? = some topic).filterMap (·.toPart?)) ::
        (listed.filter fun change => change.partTopic? ≠ some topic).foldl add bundles := by
  induction listed generalizing parts bundles with
  | nil => simp
  | cons first rest inductionHypothesis =>
      rw [List.foldl_cons, add]
      cases declared : first.part? with
      | none =>
          have other : first.partTopic? ≠ some topic := by simp [Change.partTopic?, declared]
          have skipped : add bundles first = bundles ++ [.alone first] := by rw [add, declared]
          rw [List.filter_cons_of_neg (by simpa using other),
            List.filter_cons_of_pos (by simpa using other), List.foldl_cons, skipped]
          exact inductionHypothesis parts (bundles ++ [.alone first])
      | some marker =>
          dsimp only
          rw [addPart]
          by_cases same : topic = first.topic.getD ""
          · have here : first.partTopic? = some topic := by simp [Change.partTopic?, declared, same]
            rw [if_pos same, inductionHypothesis, List.filter_cons_of_pos (by simpa using here),
              List.filter_cons_of_neg (by simpa using here),
              List.filterMap_cons_some (Change.toPart?_eq_some declared),
              List.append_assoc, List.singleton_append]
          · have other : first.partTopic? ≠ some topic := by
              simp [Change.partTopic?, declared, Ne.symm same]
            have passedOn : add bundles first =
                addPart (first.topic.getD "") ⟨marker, first⟩ bundles := by rw [add, declared]
            rw [if_neg same, inductionHypothesis, List.filter_cons_of_neg (by simpa using other),
              List.filter_cons_of_pos (by simpa using other), List.foldl_cons, passedOn]

end Bundle

/-- The bundles of some changes are the clusters of those that can be fetched, by the topic that
they declare a part under. -/
theorem bundles_eq (listed : List Change) :
    bundles listed =
      (clusters Change.partTopic? (listed.filter (·.fetchable))).map Bundle.ofCluster := by
  rw [bundles]
  induction listed.filter (·.fetchable) using clusters_induction Change.partTopic? with
  | nil =>
      rw [clusters]
      rfl
  | alone first rest keyless inductionHypothesis =>
      have noPart := first.partTopic?_eq_none_iff.mp keyless
      have added : Bundle.add [] first = [.alone first] := by
        rw [Bundle.add, noPart]
        rfl
      rw [clusters_cons_of_none rest keyless, List.foldl_cons, added, Bundle.foldl_add_alone,
        inductionHypothesis]
      rfl
  | keyed first rest topic declared inductionHypothesis =>
      obtain ⟨marker, marked, sameTopic⟩ := Option.map_eq_some_iff.mp declared
      have added : Bundle.add [] first = [.set topic [⟨marker, first⟩]] := by
        rw [Bundle.add, marked, ← sameTopic]
        rfl
      rw [clusters_cons_of_some rest declared, List.foldl_cons, added, Bundle.foldl_add_set,
        inductionHypothesis, List.map_cons, Bundle.ofCluster,
        List.filterMap_cons_some (Change.toPart?_eq_some marked)]
      rfl

/-! ## What becomes of a cluster -/

namespace Cluster

/-- The group that a cluster makes, if it makes one. -/
def group? (cluster : Cluster String Change) : Option Group :=
  (Bundle.ofCluster cluster).toGroup.toOption

/-- The rejected set that a cluster makes, if it makes one. -/
def rejected? (cluster : Cluster String Change) : Option RejectedSet :=
  match (Bundle.ofCluster cluster).toGroup with
  | .error rejected => some rejected
  | .ok _ => none

end Cluster

/-- The groups and rejected sets are what becomes of the clusters, in order. -/
theorem Grouping.ofChanges_eq (listed : List Change) :
    ofChanges listed =
      let found := clusters Change.partTopic? (listed.filter (·.fetchable))
      ⟨found.filterMap Cluster.group?, found.filterMap Cluster.rejected?⟩ := by
  rw [ofChanges, bundles_eq, ofBundles, List.filterMap_map, List.filterMap_map]
  rfl

/-- The parts of changes that all declare one are those of these changes. -/
theorem map_change_filterMap_toPart? {listed : List Change}
    (declared : ∀ change ∈ listed, change.partTopic? ≠ none) :
    (listed.filterMap (·.toPart?)).map (·.change) = listed := by
  induction listed with
  | nil => rfl
  | cons first rest inductionHypothesis =>
      have marked : first.part? ≠ none := by
        rw [ne_eq, ← first.partTopic?_eq_none_iff]
        exact declared first List.mem_cons_self
      obtain ⟨marker, isMarker⟩ := Option.ne_none_iff_exists'.mp marked
      rw [List.filterMap_cons_some (Change.toPart?_eq_some isMarker), List.map_cons,
        inductionHypothesis fun change member =>
          declared change (List.mem_cons_of_mem first member)]

section
variable {listed : List Change} {cluster : Cluster String Change}

theorem changes_ofCluster (found : cluster ∈ clusters Change.partTopic? listed) :
    (Bundle.ofCluster cluster).changes = cluster.members := by
  rcases mem_clusters_iff.mp found with ⟨change, -, -, rfl⟩ | ⟨topic, -, rfl⟩
  · rfl
  · apply map_change_filterMap_toPart?
    intro change member keyless
    have declared : change.partTopic? = some topic := by
      simpa using (List.mem_filter.mp member).2
    rw [declared] at keyless
    cases keyless

/-- A cluster becomes a group or a rejected set of its changes. -/
theorem outcome_cases (found : cluster ∈ clusters Change.partTopic? listed) :
    ∃ members : List Change, members.Perm cluster.members ∧
      ((cluster.group? = some ⟨members⟩ ∧ cluster.rejected? = none) ∨
        ∃ change issue, cluster.group? = none ∧
          cluster.rejected? = some ⟨change, members, issue⟩) := by
  obtain ⟨members, same, accepted | ⟨change, issue, refused⟩⟩ :=
    (Bundle.ofCluster cluster).toGroup_cases
  · rw [changes_ofCluster found] at same
    refine ⟨members, same, Or.inl ⟨?_, ?_⟩⟩
    · rw [Cluster.group?, accepted]
      rfl
    · rw [Cluster.rejected?, accepted]
  · rw [changes_ofCluster found] at same
    refine ⟨members, same, Or.inr ⟨change, issue, ?_, ?_⟩⟩
    · rw [Cluster.group?, refused]
      rfl
    · rw [Cluster.rejected?, refused]

/-- The members of the group of a cluster are its changes. -/
theorem perm_of_group?_eq_some (found : cluster ∈ clusters Change.partTopic? listed)
    {group : Group} (made : cluster.group? = some group) :
    group.members.Perm cluster.members := by
  obtain ⟨members, same, ⟨accepted, -⟩ | ⟨change, issue, refused, -⟩⟩ := outcome_cases found
  · rw [made] at accepted
    rw [Option.some.inj accepted]
    exact same
  · rw [made] at refused
    cases refused

/-- The members of the rejected set of a cluster are its changes, and it makes no group. -/
theorem perm_of_rejected?_eq_some (found : cluster ∈ clusters Change.partTopic? listed)
    {rejected : RejectedSet} (made : cluster.rejected? = some rejected) :
    rejected.members.Perm cluster.members ∧ cluster.group? = none := by
  obtain ⟨members, same, ⟨-, accepted⟩ | ⟨change, issue, noGroup, refused⟩⟩ := outcome_cases found
  · rw [made] at accepted
    cases accepted
  · rw [made] at refused
    rw [Option.some.inj refused]
    exact ⟨same, noGroup⟩

/-- A cluster that makes no group makes a rejected set. -/
theorem isSome_rejected? (found : cluster ∈ clusters Change.partTopic? listed) :
    cluster.rejected?.isSome = !cluster.group?.isSome := by
  obtain ⟨members, -, ⟨accepted, noRejected⟩ | ⟨change, issue, noGroup, refused⟩⟩ :=
    outcome_cases found
  · rw [accepted, noRejected]
    rfl
  · rw [noGroup, refused]
    rfl

theorem members_ne_nil (found : cluster ∈ clusters Change.partTopic? listed) :
    cluster.members ≠ [] := by
  rcases mem_clusters_iff.mp found with
    ⟨change, -, -, rfl⟩ | ⟨topic, ⟨change, member, declared⟩, rfl⟩
  · exact List.cons_ne_nil change []
  · exact List.ne_nil_of_mem (List.mem_filter.mpr ⟨member, decide_eq_true declared⟩)

end

end ChangeGate.Review
