import ChangeGate.Review.Grouping

/-!
# Grouping keeps every change

Grouping a list of changes neither loses nor doubles one: the members of the groups and of the
rejected sets together are the changes that can be fetched, each as often as it is listed.
-/

namespace ChangeGate.Review

/-! ## Bundles -/

namespace Bundle

/-- Adding a part adds its change. -/
theorem perm_addPart (topic : String) (part : Part) (bundles : List Bundle) :
    ((addPart topic part bundles).flatMap changes).Perm
      (bundles.flatMap changes ++ [part.change]) := by
  induction bundles with
  | nil => exact List.Perm.refl _
  | cons bundle rest inductionHypothesis =>
      cases bundle with
      | alone change =>
          rw [addPart, List.flatMap_cons, List.flatMap_cons, List.append_assoc]
          exact inductionHypothesis.append_left _
      | set other parts =>
          rw [addPart]
          split
          -- The set of the topic is here, and the part joins its end.
          · rw [List.flatMap_cons, List.flatMap_cons, changes, changes, List.map_append]
            rw [List.append_assoc, List.append_assoc]
            exact List.perm_append_comm.append_left _
          · rw [List.flatMap_cons, List.flatMap_cons, List.append_assoc]
            exact inductionHypothesis.append_left _

/-- Adding a change adds that change alone. -/
theorem perm_add (bundles : List Bundle) (change : Change) :
    ((add bundles change).flatMap changes).Perm (bundles.flatMap changes ++ [change]) := by
  rw [add]
  cases change.part? with
  | none =>
      rw [List.flatMap_append]
      exact List.Perm.refl _
  | some marker => exact perm_addPart _ ⟨marker, change⟩ bundles

theorem perm_foldl_add (listed : List Change) (bundles : List Bundle) :
    ((listed.foldl add bundles).flatMap changes).Perm (bundles.flatMap changes ++ listed) := by
  induction listed generalizing bundles with
  | nil =>
      rw [List.append_nil]
      exact List.Perm.refl _
  | cons change rest inductionHypothesis =>
      rw [List.foldl_cons, ← List.singleton_append, ← List.append_assoc]
      exact (inductionHypothesis (add bundles change)).trans
        ((perm_add bundles change).append_right rest)

end Bundle

/-- The bundles hold the changes that can be fetched. -/
theorem perm_bundles (listed : List Change) :
    ((bundles listed).flatMap Bundle.changes).Perm (listed.filter (·.fetchable)) :=
  Bundle.perm_foldl_add (listed.filter (·.fetchable)) []

/-! ## From bundles to groups -/

/-- A set of parts becomes a group or a rejected set of all its changes. -/
theorem assemble_cases (topic : String) (parts : List Part) :
    let members := (sortParts parts).map (·.change)
    assemble topic parts = .ok ⟨members⟩ ∨
      ∃ change issue, assemble topic parts = .error ⟨change, members, issue⟩ := by
  simp only [assemble]
  split
  · exact Or.inr ⟨_, _, rfl⟩
  · exact Or.inl rfl

/-- A bundle becomes a group or a rejected set with its changes as members. -/
theorem Bundle.toGroup_cases (bundle : Bundle) :
    ∃ members : List Change, members.Perm bundle.changes ∧
      (bundle.toGroup = .ok ⟨members⟩ ∨
        ∃ change issue, bundle.toGroup = .error ⟨change, members, issue⟩) := by
  cases bundle with
  | alone change => exact ⟨[change], List.Perm.refl _, Or.inl rfl⟩
  | set topic parts =>
      have sorted : (sortParts parts).Perm parts := List.mergeSort_perm parts _
      exact ⟨_, sorted.map (·.change), assemble_cases topic parts⟩

/-- The members of the groups, then those of the rejected sets. -/
def Grouping.members (grouping : Grouping) : List Change :=
  grouping.groups.flatMap (·.members) ++ grouping.rejected.flatMap (·.members)

/-- The members of each group, then of each rejected set. -/
def Grouping.memberLists (grouping : Grouping) : List (List Change) :=
  grouping.groups.map (·.members) ++ grouping.rejected.map (·.members)

theorem Grouping.mem_memberLists_of_mem_groups {grouping : Grouping} {group : Group}
    (listed : group ∈ grouping.groups) : group.members ∈ grouping.memberLists :=
  List.mem_append_left _ (List.mem_map_of_mem listed)

theorem Grouping.flatten_memberLists (grouping : Grouping) :
    grouping.memberLists.flatten = grouping.members := by
  rw [memberLists, List.flatten_append, ← List.flatMap_def, ← List.flatMap_def]
  rfl

theorem Grouping.perm_members_ofBundles (bundles : List Bundle) :
    (ofBundles bundles).members.Perm (bundles.flatMap Bundle.changes) := by
  induction bundles with
  | nil => exact List.Perm.refl _
  | cons bundle rest inductionHypothesis =>
      obtain ⟨members, same, accepted | ⟨change, issue, refused⟩⟩ := bundle.toGroup_cases
      · have split : (ofBundles (bundle :: rest)).members =
            members ++ (ofBundles rest).members := by
          simp only [Grouping.members, ofBundles, List.filterMap_cons, accepted,
            Except.toOption, List.flatMap_cons, List.append_assoc]
        rw [split, List.flatMap_cons]
        exact same.append inductionHypothesis
      · have split : (ofBundles (bundle :: rest)).members =
            (ofBundles rest).groups.flatMap (·.members) ++
              (members ++ (ofBundles rest).rejected.flatMap (·.members)) := by
          simp only [Grouping.members, ofBundles, List.filterMap_cons, refused,
            Except.toOption, List.flatMap_cons]
        rw [split, List.flatMap_cons]
        -- The rejected members stand behind those of every group.
        exact (List.perm_append_comm_assoc _ _ _).trans (same.append inductionHypothesis)

/-- Grouping keeps every change that can be fetched, as often as it is listed. -/
theorem Grouping.perm_members_ofChanges (listed : List Change) :
    (ofChanges listed).members.Perm (listed.filter (·.fetchable)) :=
  (perm_members_ofBundles (bundles listed)).trans (perm_bundles listed)

end ChangeGate.Review
