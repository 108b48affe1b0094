import ChangeGate.Proofs.Ci.Stale
import ChangeGate.Proofs.Text.Pieces
import Mathlib.Data.List.Nodup

/-!
# What staleness depends on

Whether a build is stale can be told whenever its refs can be read. A stale build stays stale when
the patchsets of the group are raised or its own are lowered, and in whatever order it names its
changes. A build is not stale for a group that it has no change in common with, nor for one that
names the same changes and lags behind in one of them.
-/

namespace ChangeGate.Review

/-- The second ref names the change of the first at the same patchset or a later one. -/
structure ChangeRef.RaisedTo (ref other : ChangeRef) : Prop where
  number : ref.number = other.number
  patchset : ref.patchset ≤ other.patchset

namespace Patchsets

/-- The patchsets of the first map are raised to those of the second: both name the same changes,
and the second names none of them at an earlier patchset. -/
def RaisedTo (known raised : Patchsets) : Prop :=
  ∀ number : UInt64, Option.Rel (· ≤ ·) known[number]? raised[number]?

theorem RaisedTo.refl (known : Patchsets) : known.RaisedTo known := by
  intro number
  cases known[number]? with
  | none => exact .none
  | some patchset => exact .some (UInt64.le_refl patchset)

section
variable {known raised : Patchsets}

theorem RaisedTo.nameSame (isRaised : known.RaisedTo raised) : known.NameSame raised := by
  intro number
  have related := isRaised number
  rw [Std.ExtTreeMap.mem_iff_isSome_getElem?, Std.ExtTreeMap.mem_iff_isSome_getElem?]
  revert related
  cases known[number]? <;> cases raised[number]? <;> simp

/-- What was known of a change is known of it at the same patchset or a later one. -/
theorem RaisedTo.exists_later (isRaised : known.RaisedTo raised) {number patchset : UInt64}
    (found : known[number]? = some patchset) :
    ∃ later, raised[number]? = some later ∧ patchset ≤ later := by
  have related := isRaised number
  rw [found] at related
  revert related
  cases raised[number]? with
  | none => simp
  | some later => simp

theorem RaisedTo.exists_earlier (isRaised : known.RaisedTo raised) {number patchset : UInt64}
    (found : raised[number]? = some patchset) :
    ∃ earlier, known[number]? = some earlier ∧ earlier ≤ patchset := by
  have related := isRaised number
  rw [found] at related
  revert related
  cases known[number]? with
  | none => simp
  | some earlier => simp

theorem RaisedTo.put (isRaised : known.RaisedTo raised) {ref other : ChangeRef}
    (refRaised : ref.RaisedTo other) : (known.put ref).RaisedTo (raised.put other) := by
  intro number
  rw [getElem?_put, getElem?_put, refRaised.number]
  split
  · exact .some refRaised.patchset
  · exact isRaised number

end

/-- Raising every ref of a list raises the map of it, although only the last ref of a change
counts. -/
theorem raisedTo_ofRefs {refs raised : List ChangeRef}
    (each : List.Forall₂ ChangeRef.RaisedTo refs raised) :
    (ofRefs refs).RaisedTo (ofRefs raised) :=
  List.rel_foldl (fun _ _ isRaised _ _ refRaised => isRaised.put refRaised) (.refl ∅) each

/-- Refs of different changes can be recorded in either order. -/
theorem put_put_comm (known : Patchsets) {ref other : ChangeRef}
    (different : ref.number ≠ other.number) :
    (known.put ref).put other = (known.put other).put ref := by
  apply Std.ExtTreeMap.ext_getElem?
  intro number
  simp only [getElem?_put]
  by_cases isOther : other.number = number
  · rw [if_pos isOther, if_neg (isOther ▸ different), if_pos isOther]
  · rw [if_neg isOther, if_neg isOther]

/-- The order of refs does not matter where each change is named once. -/
theorem ofRefs_congr {refs others : List ChangeRef} (same : refs.Perm others)
    (once : (refs.map (·.number)).Nodup) : ofRefs refs = ofRefs others := by
  apply same.foldl_eq'
  intro ref member other otherMember known
  by_cases isSame : ref.number = other.number
  · rw [List.inj_on_of_nodup_map once member otherMember isSame]
  · exact put_put_comm known isSame

end Patchsets

end ChangeGate.Review

namespace ChangeGate.Ci

open ChangeGate.Review ChangeGate.Text

/-! ## Moving patchsets -/

section
variable {current raised built lowered : Patchsets}

theorem Reaches.mono {number : UInt64} (reaches : Reaches current built number)
    (isRaised : current.RaisedTo raised) (isLowered : lowered.RaisedTo built) :
    Reaches raised lowered number := by
  obtain ⟨now, before, isNow, wasBuilt, atLeast⟩ := reaches
  obtain ⟨later, isLater, notBelow⟩ := isRaised.exists_later isNow
  obtain ⟨earlier, isEarlier, notAbove⟩ := isLowered.exists_earlier wasBuilt
  exact ⟨later, earlier, isLater, isEarlier,
    UInt64.le_trans notAbove (UInt64.le_trans atLeast notBelow)⟩

/-- What supersedes a build still does with its patchsets raised and those of the build lowered,
since the two still name the same changes or still do not. -/
theorem Supersedes.mono (stale : Supersedes current built) (isRaised : current.RaisedTo raised)
    (isLowered : lowered.RaisedTo built) : Supersedes raised lowered := by
  have nameSame_iff : lowered.NameSame raised ↔ built.NameSame current := by
    simp only [Patchsets.NameSame, isLowered.nameSame _, isRaised.nameSame _]
  constructor
  · intro same number inLowered
    have inBuilt := (isLowered.nameSame number).mp inLowered
    exact (stale.all (nameSame_iff.mp same) number inBuilt).mono isRaised isLowered
  · intro differs
    obtain ⟨number, reaches⟩ := stale.some (mt nameSame_iff.mpr differs)
    exact ⟨number, reaches.mono isRaised isLowered⟩

/-- A build is not superseded by what names the same changes and lags behind in one of them. -/
theorem superseded_eq_false_of_behind (same : built.NameSame current) {number before now : UInt64}
    (wasBuilt : built[number]? = some before) (isNow : current[number]? = some now)
    (behind : now < before) : superseded built current = false := by
  rw [← Bool.not_eq_true, superseded_iff]
  intro stale
  have inBuilt : number ∈ built := by
    simp [Std.ExtTreeMap.mem_iff_isSome_getElem?, wasBuilt]
  obtain ⟨_, _, isSameNow, wasSameBuilt, atLeast⟩ := stale.all same number inBuilt
  rw [isNow] at isSameNow
  rw [wasBuilt] at wasSameBuilt
  rw [← Option.some.inj isSameNow, ← Option.some.inj wasSameBuilt] at atLeast
  exact absurd behind (UInt64.not_lt.mpr atLeast)

end

/-! ## Builds told by their joined refs -/

/-- The pieces of a joined text are texts of some refs, in order. -/
def Names (refs : String) (named : List ChangeRef) : Prop :=
  List.Forall₂ (fun piece ref => ChangeRef.parse (String.ofList piece) = .ok ref)
    (refs.toList.splitOn ':') named

theorem names_iff {refs : String} {named : List ChangeRef} :
    Names refs named ↔
      (refs.toList.splitOn ':').mapM (fun piece => ChangeRef.parse (String.ofList piece)) =
        .ok named :=
  mapM_eq_ok_iff.symm

/-- A joined text names some ref. -/
theorem Names.ne_nil {refs : String} {named : List ChangeRef} (names : Names refs named) :
    named ≠ [] := by
  rintro rfl
  exact List.splitOn_ne_nil _ _ (List.forall₂_nil_right_iff.mp names)

theorem Names.builtPatchsets {refs : String} {named : List ChangeRef} (names : Names refs named) :
    builtPatchsets refs = .ok (Patchsets.ofRefs named) := by
  rw [Ci.builtPatchsets, names_iff.mp names]
  rfl

theorem Names.isStale {refs : String} {named : List ChangeRef} (names : Names refs named)
    (current : Patchsets) :
    isStale refs current = .ok (superseded (Patchsets.ofRefs named) current) := by
  rw [Ci.isStale, names.builtPatchsets]
  rfl

/-- Where staleness can be told, the joined refs are read. -/
theorem exists_names_of_isStale {refs : String} {current : Patchsets} {stale : Bool}
    (told : isStale refs current = .ok stale) : ∃ named, Names refs named := by
  cases read : (refs.toList.splitOn ':').mapM
      (fun piece => ChangeRef.parse (String.ofList piece)) with
  | ok named => exact ⟨named, names_iff.mpr read⟩
  | error cause =>
      rw [isStale, builtPatchsets, read] at told
      cases told

/-- Whether a group makes a build stale cannot be told exactly when a piece of the refs of the build
is no ref. -/
theorem exists_isStale_eq_error_iff (refs : String) (current : Patchsets) :
    (∃ cause, isStale refs current = .error cause) ↔
      ∃ piece ∈ refs.toList.splitOn ':', ∃ cause,
        ChangeRef.parse (String.ofList piece) = .error cause := by
  have fails_iff (cause : RefError) : isStale refs current = .error cause ↔
      (refs.toList.splitOn ':').mapM (fun piece => ChangeRef.parse (String.ofList piece)) =
        .error cause := by
    rw [isStale, builtPatchsets]
    cases (refs.toList.splitOn ':').mapM (fun piece => ChangeRef.parse (String.ofList piece)) with
    | ok named => simp [bind, Except.bind, pure, Except.pure]
    | error other => simp [bind, Except.bind]
  constructor
  · rintro ⟨cause, fails⟩
    obtain ⟨piece, member, unreadable⟩ := exists_mem_of_mapM_eq_error ((fails_iff cause).mp fails)
    exact ⟨piece, member, cause, unreadable⟩
  · rintro ⟨piece, member, cause, unreadable⟩
    let read (piece : List Char) := ChangeRef.parse (String.ofList piece)
    have stops : read piece = .error cause := unreadable
    obtain ⟨first, fails⟩ := exists_error_of_mapM member stops
    exact ⟨first, (fails_iff first).mpr fails⟩

/-- What the staleness of a build with these joined refs depends on. -/
structure StalenessLaws (refs : String) : Prop where
  /-- It cannot be told exactly when some piece is no ref, whatever the group. -/
  fails_iff : ∀ current, (∃ cause, isStale refs current = .error cause) ↔
    ∃ piece ∈ refs.toList.splitOn ':', ∃ cause,
      ChangeRef.parse (String.ofList piece) = .error cause
  /-- A stale build stays stale when the patchsets of the group are raised. -/
  raised : ∀ {current raised : Patchsets}, isStale refs current = .ok true →
    current.RaisedTo raised → isStale refs raised = .ok true
  /-- So does one whose own patchsets are lowered. -/
  lowered : ∀ {named lower : List ChangeRef} {other : String} {current : Patchsets},
    Names refs named → Names other lower → List.Forall₂ ChangeRef.RaisedTo lower named →
    isStale refs current = .ok true → isStale other current = .ok true
  /-- The order of the refs does not matter to a build that names each change once. -/
  reordered : ∀ {named shuffled : List ChangeRef} {other : String}, Names refs named →
    (named.map (·.number)).Nodup → Names other shuffled → named.Perm shuffled →
    ∀ current, isStale other current = isStale refs current
  /-- A build is not stale without a change in common, and so not for a group of none. -/
  disjoint : ∀ {named : List ChangeRef} {current : Patchsets}, Names refs named →
    (∀ ref ∈ named, ref.number ∉ current) → isStale refs current = .ok false
  /-- A build is not stale for a group that names the same changes and lags behind in one. -/
  behind : ∀ {built current : Patchsets} {number before now : UInt64},
    builtPatchsets refs = .ok built → built.NameSame current → built[number]? = some before →
    current[number]? = some now → now < before → isStale refs current = .ok false

/-- What the staleness of any build depends on. -/
theorem stalenessLaws (refs : String) : StalenessLaws refs where
  fails_iff := exists_isStale_eq_error_iff refs
  raised := by
    intro current raised stale isRaised
    obtain ⟨named, names⟩ := exists_names_of_isStale stale
    rw [names.isStale, Except.ok.injEq, superseded_iff] at stale ⊢
    exact stale.mono isRaised (.refl _)
  lowered := by
    intro named other lower current names otherNames isLowered stale
    rw [names.isStale, Except.ok.injEq, superseded_iff] at stale
    rw [otherNames.isStale, Except.ok.injEq, superseded_iff]
    exact stale.mono (.refl current) (Patchsets.raisedTo_ofRefs isLowered)
  reordered := by
    intro named other shuffled names once otherNames same current
    rw [names.isStale, otherNames.isStale, Patchsets.ofRefs_congr same once]
  disjoint := by
    intro named current names apart
    obtain ⟨first, member⟩ := List.exists_mem_of_ne_nil _ names.ne_nil
    have present : first.number ∈ Patchsets.ofRefs named :=
      Patchsets.mem_ofRefs_iff.mpr ⟨first, member, rfl⟩
    rw [names.isStale, superseded_eq_false_of_disjoint ⟨first.number, present⟩]
    intro number inBuilt
    obtain ⟨ref, isNamed, rfl⟩ := Patchsets.mem_ofRefs_iff.mp inBuilt
    exact apart ref isNamed
  behind := by
    intro built current number before now read same wasBuilt isNow behind
    rw [isStale, read, ← superseded_eq_false_of_behind same wasBuilt isNow behind]
    rfl

/-- A build of two changes, one of them under a ref of its own kind, is stale for a group that
moved on, under lower refs and in either order, and not for a group of none or for one that lags
behind. -/
theorem stalenessLaws_of_two_refs :
    let refs := "refs/changes/07/7/2:a/b/c/8/+1"
    isStale refs (Patchsets.ofRefs [⟨7, 3⟩, ⟨8, 1⟩]) = .ok true ∧
      isStale "refs/changes/07/7/0:a/b/c/8/1" (Patchsets.ofRefs [⟨7, 2⟩, ⟨8, 1⟩]) = .ok true ∧
      (∀ current, isStale "a/b/c/8/1:refs/changes/07/7/2" current = isStale refs current) ∧
      isStale refs ∅ = .ok false ∧
      isStale refs (Patchsets.ofRefs [⟨7, 1⟩, ⟨8, 5⟩]) = .ok false := by
  intro refs
  have laws := stalenessLaws refs
  have names : Names refs [⟨7, 2⟩, ⟨8, 1⟩] := names_iff.mpr (by decide)
  have stale : isStale refs (Patchsets.ofRefs [⟨7, 2⟩, ⟨8, 1⟩]) = .ok true := by
    rw [names.isStale, superseded_self]
  have nextPatchset : ChangeRef.RaisedTo ⟨7, 2⟩ ⟨7, 3⟩ := ⟨rfl, by decide⟩
  have firstPatchset : ChangeRef.RaisedTo ⟨7, 0⟩ ⟨7, 2⟩ := ⟨rfl, by decide⟩
  have samePatchset : ChangeRef.RaisedTo ⟨8, 1⟩ ⟨8, 1⟩ := ⟨rfl, by decide⟩
  refine ⟨?_, ?_, ?_, ?_, ?_⟩
  · exact laws.raised stale
      (Patchsets.raisedTo_ofRefs (.cons nextPatchset (.cons samePatchset .nil)))
  · exact laws.lowered names (names_iff.mpr (by decide))
      (.cons firstPatchset (.cons samePatchset .nil)) stale
  · exact laws.reordered names (by decide) (names_iff.mpr (by decide)) (List.Perm.swap _ _ [])
  · exact laws.disjoint names fun ref _ => Std.ExtTreeMap.not_mem_empty
  · have same : (Patchsets.ofRefs [⟨7, 2⟩, ⟨8, 1⟩]).NameSame
        (Patchsets.ofRefs [⟨7, 1⟩, ⟨8, 5⟩]) := by
      intro number
      simp only [Patchsets.mem_ofRefs_iff, List.mem_cons, List.not_mem_nil, or_false,
        exists_eq_or_imp, exists_eq_left]
    have wasBuilt : (Patchsets.ofRefs [⟨7, 2⟩, ⟨8, 1⟩])[(7 : UInt64)]? = some 2 := by decide
    have isNow : (Patchsets.ofRefs [⟨7, 1⟩, ⟨8, 5⟩])[(7 : UInt64)]? = some 1 := by decide
    exact laws.behind names.builtPatchsets same wasBuilt isNow (by decide)

end ChangeGate.Ci
