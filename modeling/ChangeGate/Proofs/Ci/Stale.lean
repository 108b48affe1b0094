import ChangeGate.Proofs.Ci.Refs
import ChangeGate.Review.Grouping

/-!
# When a build is stale

The joined refs of a group read back as the patchsets of the group, so that no build the gate starts
has refs that cannot be read later. Whether such a build is stale is told by looking up changes: by
all of them where the build and the group name the same ones, and by a shared one where they do not.
-/

namespace ChangeGate.Review

/-- The reference of a change names its patchset, and stays in one piece among joined refs. -/
structure Change.NamedByReference (change : Change) : Prop where
  parses : ChangeRef.parse change.reference = .ok change.ref
  noColon : ':' ∉ change.reference.toList

/-- A change under its own ref is named by it. -/
theorem Change.namedByReference_of_eq_text {change : Change}
    (canonical : change.reference = change.ref.text) : change.NamedByReference where
  parses := by rw [canonical, ChangeRef.parse_text]
  noColon := by
    rw [canonical]
    exact Ci.colon_notMem_text change.ref

namespace Patchsets

/-- Two maps of patchsets name the same changes. -/
def NameSame (first second : Patchsets) : Prop :=
  ∀ number, number ∈ first ↔ number ∈ second

/-- Maps list the same numbers when they name the same changes, since both list them rising. -/
theorem keys_eq_iff_nameSame (first second : Patchsets) :
    first.keys = second.keys ↔ first.NameSame second := by
  constructor
  · intro same number
    rw [← Std.ExtTreeMap.mem_keys, same, Std.ExtTreeMap.mem_keys]
  · intro same
    have perm : first.keys.Perm second.keys := by
      rw [List.perm_ext_iff_of_nodup Std.ExtTreeMap.nodup_keys Std.ExtTreeMap.nodup_keys]
      simpa only [Std.ExtTreeMap.mem_keys, NameSame] using same
    refine perm.eq_of_pairwise ?_ Std.ExtTreeMap.ordered_keys Std.ExtTreeMap.ordered_keys
    intro lower upper _ _ before after
    exact absurd after (Std.OrientedCmp.not_lt_of_lt before)

theorem mem_ofRefs_iff {refs : List ChangeRef} {number : UInt64} :
    number ∈ ofRefs refs ↔ ∃ ref ∈ refs, ref.number = number := by
  have foldl_iff (known : Patchsets) :
      number ∈ refs.foldl put known ↔ number ∈ known ∨ ∃ ref ∈ refs, ref.number = number := by
    induction refs generalizing known with
    | nil => simp
    | cons ref rest inductionHypothesis =>
        rw [List.foldl_cons, inductionHypothesis]
        simp [put, Std.ExtTreeMap.mem_insert, or_assoc, or_left_comm]
  simpa [ofRefs] using foldl_iff ∅

end Patchsets

theorem Group.mem_patchsets_iff {group : Group} {number : UInt64} :
    number ∈ group.patchsets ↔ ∃ change ∈ group.members, change.number = number := by
  rw [Group.patchsets, Patchsets.mem_ofRefs_iff]
  constructor
  · rintro ⟨ref, member, rfl⟩
    obtain ⟨change, isMember, rfl⟩ := List.mem_map.mp member
    exact ⟨change, isMember, rfl⟩
  · rintro ⟨change, member, rfl⟩
    exact ⟨change.ref, List.mem_map_of_mem member, rfl⟩

end ChangeGate.Review

namespace ChangeGate.Ci

open ChangeGate.Review ChangeGate.Text

/-! ## Reading the joined refs of a build -/

/-- The references of changes that are named by them read as the refs of these changes. -/
theorem mapM_parse_references {members : List Change}
    (named : ∀ change ∈ members, change.NamedByReference) :
    (members.map (·.reference.toList)).mapM (fun piece => ChangeRef.parse (String.ofList piece)) =
      .ok (members.map (·.ref)) := by
  induction members with
  | nil => rfl
  | cons change rest inductionHypothesis =>
      have parsed := (named change List.mem_cons_self).parses
      have others := inductionHypothesis fun other member =>
        named other (List.mem_cons_of_mem change member)
      rw [List.map_cons, List.mapM_cons, String.ofList_toList, parsed, others]
      rfl

/-- The joined references of a group read as its patchsets. -/
theorem builtPatchsets_references {group : Group} (present : group.members ≠ [])
    (named : ∀ change ∈ group.members, change.NamedByReference) :
    builtPatchsets (String.intercalate ":" group.references) = .ok group.patchsets := by
  have pieces : (String.intercalate ":" group.references).toList.splitOn ':' =
      group.members.map (·.reference.toList) := by
    rw [splitOn_toList_intercalate rfl]
    · rw [Group.references, List.map_map]
      rfl
    · simpa [Group.references] using present
    · intro reference member
      obtain ⟨change, isMember, rfl⟩ := List.mem_map.mp member
      exact (named change isMember).noColon
  rw [builtPatchsets, pieces, mapM_parse_references named]
  rfl

/-! ## What makes a build stale -/

/-- The current patchset of a change is the one that was built or a later one. -/
def Reaches (current built : Patchsets) (number : UInt64) : Prop :=
  ∃ now before, current[number]? = some now ∧ built[number]? = some before ∧ before ≤ now

/-- What it takes to make a build stale: where the same changes are named all of them reach what was
built, and otherwise some change does. -/
structure Supersedes (current built : Patchsets) : Prop where
  all : built.NameSame current → ∀ number ∈ built, Reaches current built number
  some : ¬ built.NameSame current → ∃ number, Reaches current built number

section
variable {built current : Patchsets}

/-- Where the same changes are named, a build is stale when all of them reach what was built. -/
theorem all_covers_iff (same : built.NameSame current) :
    (current.toList.all fun (number, patchset) => (built[number]?).all (covers patchset)) = true ↔
      ∀ number ∈ built, Reaches current built number := by
  simp only [List.all_eq_true, Prod.forall, Std.ExtTreeMap.mem_toList_iff_getElem?_eq_some,
    Option.all_eq_true, covers, decide_eq_true_eq]
  constructor
  · intro covered number inBuilt
    have inCurrent := (same number).mp inBuilt
    rw [Std.ExtTreeMap.mem_iff_isSome_getElem?, Option.isSome_iff_exists] at inBuilt inCurrent
    obtain ⟨before, wasBuilt⟩ := inBuilt
    obtain ⟨now, isNow⟩ := inCurrent
    exact ⟨now, before, isNow, wasBuilt, covered number now isNow before wasBuilt⟩
  · intro reached number now isNow before wasBuilt
    have inBuilt : number ∈ built := by
      simp [Std.ExtTreeMap.mem_iff_isSome_getElem?, wasBuilt]
    obtain ⟨other, first, isOther, wasFirst, atLeast⟩ := reached number inBuilt
    rw [isNow] at isOther
    rw [wasBuilt] at wasFirst
    rwa [Option.some.inj isOther, Option.some.inj wasFirst]

/-- Otherwise it is stale when a change that both name does. -/
theorem any_covers_iff :
    (built.toList.any fun (number, patchset) => (current[number]?).any (covers · patchset)) = true ↔
      ∃ number, Reaches current built number := by
  simp only [List.any_eq_true, Prod.exists, Std.ExtTreeMap.mem_toList_iff_getElem?_eq_some,
    Option.any_eq_true, covers, decide_eq_true_eq, Reaches]
  constructor
  · rintro ⟨number, before, wasBuilt, now, isNow, atLeast⟩
    exact ⟨number, now, before, isNow, wasBuilt, atLeast⟩
  · rintro ⟨number, now, before, isNow, wasBuilt, atLeast⟩
    exact ⟨number, before, wasBuilt, now, isNow, atLeast⟩

/-- A build is superseded by what it takes to make it stale. -/
theorem superseded_iff : superseded built current = true ↔ Supersedes current built := by
  rw [superseded]
  by_cases same : built.NameSame current
  · rw [if_pos ((Patchsets.keys_eq_iff_nameSame built current).mpr same), all_covers_iff same]
    constructor
    · exact fun all => ⟨fun _ => all, fun differ => absurd same differ⟩
    · exact fun stale => stale.all same
  · rw [if_neg (mt (Patchsets.keys_eq_iff_nameSame built current).mp same), any_covers_iff]
    constructor
    · exact fun some => ⟨fun alike => absurd alike same, fun _ => some⟩
    · exact fun stale => stale.some same

variable (built) in
/-- What was built is superseded by itself. -/
theorem superseded_self : superseded built built = true := by
  rw [superseded_iff]
  constructor
  · intro _ number inBuilt
    rw [Std.ExtTreeMap.mem_iff_isSome_getElem?, Option.isSome_iff_exists] at inBuilt
    obtain ⟨patchset, found⟩ := inBuilt
    exact ⟨patchset, patchset, found, found, UInt64.le_refl patchset⟩
  · intro differs
    exact absurd (fun _ => Iff.rfl) differs

/-- A build is not superseded by what it has no change in common with. -/
theorem superseded_eq_false_of_disjoint (present : ∃ number, number ∈ built)
    (disjoint : ∀ number ∈ built, number ∉ current) : superseded built current = false := by
  rw [← Bool.not_eq_true, superseded_iff]
  intro stale
  obtain ⟨number, inBuilt⟩ := present
  have differs : ¬ built.NameSame current := by
    intro same
    exact disjoint number inBuilt ((same number).mp inBuilt)
  obtain ⟨shared, now, before, isNow, wasBuilt, -⟩ := stale.some differs
  have inBoth : shared ∈ built ∧ shared ∈ current := by
    simp [Std.ExtTreeMap.mem_iff_isSome_getElem?, isNow, wasBuilt]
  exact disjoint shared inBoth.1 inBoth.2

end

/-- The joined references of a group are never unreadable. -/
theorem isStale_references {group : Group} (present : group.members ≠ [])
    (named : ∀ change ∈ group.members, change.NamedByReference) (current : Patchsets) :
    isStale (String.intercalate ":" group.references) current =
      .ok (superseded group.patchsets current) := by
  rw [isStale, builtPatchsets_references present named]
  rfl

end ChangeGate.Ci
