import ChangeGate.Review.Patchsets

/-!
# Looking up patchsets

What a map of patchsets answers after a list of refs was recorded in it. The highest patchset of
each number counts, and it is one of those recorded. A map is determined by the refs it lists.
-/

namespace ChangeGate.Review

namespace Patchsets

/-- Something is recorded once a patchset was. -/
theorem put_ne_empty (known : Patchsets) (ref : ChangeRef) : known.put ref ≠ ∅ := by
  intro isEmpty
  have recorded : (known.put ref)[ref.number]? = some ref.patchset := by
    rw [getElem?_put, if_pos rfl]
  rw [isEmpty, Std.ExtTreeMap.getElem?_empty] at recorded
  cases recorded

/-- The later of two patchsets is one of them. -/
theorem later_eq_or (patchset : UInt64) (known : Option UInt64) :
    later patchset known = patchset ∨ known = some (later patchset known) := by
  cases known with
  | none => exact Or.inl rfl
  | some other =>
      simp only [later]
      split
      · exact Or.inl rfl
      · exact Or.inr rfl

/-- The later of two patchsets is past neither of them. -/
theorem le_later (patchset : UInt64) (known : Option UInt64) :
    patchset ≤ later patchset known := by
  cases known with
  | none => exact UInt64.le_refl patchset
  | some other =>
      simp only [later]
      split
      · exact UInt64.le_refl patchset
      · next notBefore => exact UInt64.not_lt.mp notBefore

theorem known_le_later (patchset : UInt64) {known : Option UInt64} {other : UInt64}
    (isKnown : known = some other) : other ≤ later patchset known := by
  subst isKnown
  simp only [later]
  split
  · next before => exact UInt64.le_of_lt before
  · exact UInt64.le_refl other

/-! ## Recording one ref and many -/

/-- What a lookup finds after a ref was recorded is that ref or was known before. -/
theorem of_getElem?_raise {known : Patchsets} {ref : ChangeRef} {number patchset : UInt64}
    (found : (known.raise ref)[number]? = some patchset) :
    ref = ⟨number, patchset⟩ ∨ known[number]? = some patchset := by
  rw [getElem?_raise] at found
  by_cases same : ref.number = number
  · subst same
    rw [if_pos rfl] at found
    rcases later_eq_or ref.patchset known[ref.number]? with isNew | isKnown
    · rw [← Option.some.inj found, isNew]
      exact Or.inl rfl
    · rw [Option.some.inj found] at isKnown
      exact Or.inr isKnown
  · rw [if_neg same] at found
    exact Or.inr found

/-- What was recorded or known before a ref was recorded is not past what is known after. -/
theorem exists_getElem?_raise (known : Patchsets) (ref : ChangeRef) {number patchset : UInt64}
    (source : ref = ⟨number, patchset⟩ ∨ known[number]? = some patchset) :
    ∃ highest, (known.raise ref)[number]? = some highest ∧ patchset ≤ highest := by
  rw [getElem?_raise]
  by_cases same : ref.number = number
  · refine ⟨later ref.patchset known[number]?, if_pos same, ?_⟩
    rcases source with isRef | isKnown
    · rw [isRef]
      exact le_later _ _
    · exact known_le_later _ isKnown
  · rw [if_neg same]
    rcases source with isRef | isKnown
    · exact absurd (congrArg ChangeRef.number isRef) same
    · exact ⟨patchset, isKnown, UInt64.le_refl patchset⟩

/-- What a lookup finds after some refs were recorded is one of them or was known before. -/
theorem of_getElem?_foldl_raise {refs : List ChangeRef} {known : Patchsets}
    {number patchset : UInt64} (found : (refs.foldl raise known)[number]? = some patchset) :
    ⟨number, patchset⟩ ∈ refs ∨ known[number]? = some patchset := by
  induction refs generalizing known with
  | nil => exact Or.inr found
  | cons ref rest inductionHypothesis =>
      rcases inductionHypothesis found with inRest | isKnown
      · exact Or.inl (List.mem_cons_of_mem ref inRest)
      · rcases of_getElem?_raise isKnown with isFirst | before
        · rw [isFirst]
          exact Or.inl List.mem_cons_self
        · exact Or.inr before

/-- What was recorded among some refs, or known before, is not past what is known after. -/
theorem exists_getElem?_foldl_raise {refs : List ChangeRef} {known : Patchsets}
    {number patchset : UInt64}
    (source : ⟨number, patchset⟩ ∈ refs ∨ known[number]? = some patchset) :
    ∃ highest, (refs.foldl raise known)[number]? = some highest ∧ patchset ≤ highest := by
  induction refs generalizing known patchset with
  | nil =>
      rcases source with member | isKnown
      · cases member
      · exact ⟨patchset, isKnown, UInt64.le_refl patchset⟩
  | cons ref rest inductionHypothesis =>
      rw [List.foldl_cons]
      -- What is recorded first counts as known for the refs that follow.
      rcases source with member | isKnown
      · rcases List.mem_cons.mp member with isFirst | inRest
        · obtain ⟨raised, isRaised, notPast⟩ :=
            exists_getElem?_raise known ref (Or.inl isFirst.symm)
          obtain ⟨highest, found, atMost⟩ := inductionHypothesis (Or.inr isRaised)
          exact ⟨highest, found, UInt64.le_trans notPast atMost⟩
        · exact inductionHypothesis (Or.inl inRest)
      · obtain ⟨raised, isRaised, notPast⟩ := exists_getElem?_raise known ref (Or.inr isKnown)
        obtain ⟨highest, found, atMost⟩ := inductionHypothesis (Or.inr isRaised)
        exact ⟨highest, found, UInt64.le_trans notPast atMost⟩

/-! ## The highest patchsets -/

/-- Every listed ref is known with its patchset or a later one. -/
theorem exists_getElem?_highest {refs : List ChangeRef} {ref : ChangeRef} (member : ref ∈ refs) :
    ∃ patchset, (highest refs)[ref.number]? = some patchset ∧ ref.patchset ≤ patchset :=
  exists_getElem?_foldl_raise (Or.inl member)

/-- What is known was listed. -/
theorem mem_of_getElem?_highest {refs : List ChangeRef} {number patchset : UInt64}
    (found : (highest refs)[number]? = some patchset) : ⟨number, patchset⟩ ∈ refs := by
  rcases of_getElem?_foldl_raise found with member | isKnown
  · exact member
  · rw [Std.ExtTreeMap.getElem?_empty] at isKnown
    cases isKnown

/-- A lookup in the map of the highest patchsets finds the highest one listed. -/
theorem getElem?_highest_eq_some_iff {refs : List ChangeRef} {number patchset : UInt64} :
    (highest refs)[number]? = some patchset ↔
      ⟨number, patchset⟩ ∈ refs ∧ ∀ other, ⟨number, other⟩ ∈ refs → other ≤ patchset := by
  constructor
  · intro found
    refine ⟨mem_of_getElem?_highest found, ?_⟩
    intro other member
    obtain ⟨highest, isFound, notPast⟩ := exists_getElem?_highest member
    rw [Option.some.inj (found.symm.trans isFound)]
    exact notPast
  · rintro ⟨member, isHighest⟩
    obtain ⟨found, isFound, atLeast⟩ := exists_getElem?_highest member
    have atMost : found ≤ patchset := isHighest found (mem_of_getElem?_highest isFound)
    rw [isFound, UInt64.le_antisymm atMost atLeast]

/-- The highest patchsets do not depend on the order of the refs, nor on how often one is listed. -/
theorem highest_eq_of_mem_iff {refs others : List ChangeRef}
    (same : ∀ ref, ref ∈ refs ↔ ref ∈ others) : highest refs = highest others := by
  apply Std.ExtTreeMap.ext_getElem?
  intro number
  apply Option.ext
  intro patchset
  simp only [getElem?_highest_eq_some_iff, same]

/-! ## Listing a map -/

theorem mem_refs_iff {known : Patchsets} {ref : ChangeRef} :
    ref ∈ known.refs ↔ known[ref.number]? = some ref.patchset := by
  rw [refs, List.mem_map, ← Std.ExtTreeMap.mem_toList_iff_getElem?_eq_some]
  constructor
  · rintro ⟨entry, member, rfl⟩
    exact member
  · intro member
    exact ⟨(ref.number, ref.patchset), member, rfl⟩

/-- A map lists its refs by rising number. -/
theorem refs_pairwise (known : Patchsets) :
    known.refs.Pairwise fun ref other => ref.number < other.number := by
  rw [refs, List.pairwise_map]
  exact Std.ExtTreeMap.ordered_keys_toList.imp Std.compare_eq_lt.mp

/-- A map is the map of the refs it lists. -/
theorem highest_refs (known : Patchsets) : highest known.refs = known := by
  apply Std.ExtTreeMap.ext_getElem?
  intro number
  apply Option.ext
  intro patchset
  rw [getElem?_highest_eq_some_iff, mem_refs_iff]
  constructor
  · rintro ⟨found, -⟩
    exact found
  · intro found
    refine ⟨found, ?_⟩
    intro other member
    have equal : patchset = other :=
      Option.some.inj (found.symm.trans (mem_refs_iff.mp member))
    rw [equal]
    exact UInt64.le_refl other

end Patchsets

end ChangeGate.Review
