import ChangeGate.Proofs.Ci.Stale
import ChangeGate.Proofs.Json.Record
import ChangeGate.Proofs.Memory.Store
import ChangeGate.Proofs.Text.Pieces
import ChangeGate.Review.Landing
import ChangeGate.Service.Remote

/-!
# What a listed change is known by

A change is listed with a ref and with numbers of its own. Where the ref can be read, it alone says
which patchset of which change is meant: in the log, to the build server, in reports and in the
addresses of the review server. Where it cannot, the numbers of the record stand in the log, and the
change can be neither reviewed nor matched with a build. A change without a ref is passed over.
Where a record lists several ways to fetch a change, all of this holds whichever of them is taken.
-/

namespace ChangeGate.Service

open ChangeGate.Ci ChangeGate.Http ChangeGate.Json ChangeGate.Review ChangeGate.SeenLog
open ChangeGate.Text

/-! ## In the log -/

/-- The revision that a record says its change stands at is listed in it. -/
def StandsAt (listed : ListedChange) (revision : Revision) : Prop :=
  ∃ name, listed.currentRevision = some name ∧ listed.revisions[name]? = some revision

theorem current?_eq_some_iff {listed : ListedChange} {revision : Revision} :
    listed.current? = some revision ↔ StandsAt listed revision :=
  Option.bind_eq_some_iff

theorem current?_eq_none_iff {listed : ListedChange} :
    listed.current? = none ↔ ∀ revision, ¬ StandsAt listed revision := by
  rw [Option.eq_none_iff_forall_ne_some]
  exact forall_congr' fun revision => not_congr current?_eq_some_iff

/-- A revision is fetched under its own ref, or else under one that it lists: the one by http, if
there is one. -/
structure FetchedUnder (revision : Revision) (reference : String) : Prop where
  own : revision.reference ≠ "" → reference = revision.reference
  byHttp : revision.reference = "" → ∀ listed, revision.fetch["http"]? = some listed →
    reference = listed
  otherwise : revision.reference = "" → revision.fetch["http"]? = none → revision.fetch ≠ ∅ →
    ∃ way : String, revision.fetch[way]? = some reference
  nowhere : revision.reference = "" → revision.fetch = ∅ → reference = ""

/-- The records of the answer to a query. -/
def records? (body : String) : Option (List ListedChange) :=
  (parse? (listingText body)).bind (list? ListedChange.decode)

/-- The change of a record under a reference. Numbers of the record count where the reference is no
ref. -/
def changeUnder (listed : ListedChange) (reference : String) : Change :=
  let place := (ChangeRef.parse? reference).getD
    ⟨listed.number, (listed.current?.map (·.number)).getD 0⟩
  { listed.toChange with number := place.number, patchset := place.patchset, reference }

/-- A change that a record may be read as. Of several ways to fetch the current revision any may be
taken, for the ways are kept without an order. -/
structure MayStandFor (listed : ListedChange) (change : Change) : Prop where
  offered : ∀ revision, StandsAt listed revision → FetchedUnder revision change.reference
  unplaced : (∀ revision, ¬ StandsAt listed revision) → change.reference = ""
  made : change = changeUnder listed change.reference

/-- Changes that the answer to a query may be read as. -/
def MayList (body : String) (changes : List Change) : Prop :=
  ∃ listed, records? body = some listed ∧ List.Forall₂ MayStandFor listed changes

section
variable {listed : ListedChange}

theorem reference_of_current?_eq_none (missing : listed.current? = none) :
    listed.reference = "" := by
  rw [ListedChange.reference, missing]
  rfl

theorem reference_of_current? {revision : Revision} (current : listed.current? = some revision) :
    listed.reference = revision.fetchRef := by
  rw [ListedChange.reference, current]
  rfl

/-- The ref of a revision is one that it is fetched under. -/
theorem fetchedUnder_fetchRef (revision : Revision) :
    FetchedUnder revision revision.fetchRef where
  own := by
    intro present
    rw [Revision.fetchRef, if_neg (mt String.isEmpty_iff.mp present)]
  byHttp := by
    intro absent ref isHttp
    rw [Revision.fetchRef, if_pos (String.isEmpty_iff.mpr absent), isHttp]
    rfl
  otherwise := by
    intro absent notHttp present
    rw [Revision.fetchRef, if_pos (String.isEmpty_iff.mpr absent), notHttp, Option.none_or]
    cases ways : revision.fetch.toList with
    | nil => exact absurd (Std.ExtTreeMap.toList_eq_nil_iff.mp ways) present
    | cons first rest =>
        refine ⟨first.1, ?_⟩
        rw [← Std.ExtTreeMap.mem_toList_iff_getElem?_eq_some, ways]
        exact List.mem_cons_self
  nowhere := by
    intro absent empty
    rw [Revision.fetchRef, if_pos (String.isEmpty_iff.mpr absent), empty]
    rfl

theorem changeUnder_reference (listed : ListedChange) :
    changeUnder listed listed.reference = listed.toChange := by
  rw [changeUnder, ListedChange.toChange, ListedChange.position]
  cases ChangeRef.parse? listed.reference with
  | none => rfl
  | some ref => rfl

/-- The change of a record is one that it may be read as. -/
theorem mayStandFor_toChange (listed : ListedChange) : MayStandFor listed listed.toChange where
  offered := by
    intro revision standsAt
    have reference : listed.toChange.reference = revision.fetchRef :=
      reference_of_current? (current?_eq_some_iff.mpr standsAt)
    rw [reference]
    exact fetchedUnder_fetchRef revision
  unplaced missing := reference_of_current?_eq_none (current?_eq_none_iff.mpr missing)
  made := (changeUnder_reference listed).symm

end

section
variable {body : String} {changes : List Change}

theorem parseListing_eq_ok_iff : parseListing body = .ok changes ↔
    ∃ listed, records? body = some listed ∧ listed.map (·.toChange) = changes := by
  have read : (parse? (listingText body)).bind changesOfDocument =
      (records? body).map fun listed => listed.map (·.toChange) := by
    rw [records?, Option.map_bind]
    rfl
  rw [parseListing, read, ← Option.map_eq_some_iff]
  cases (records? body).map fun listed => listed.map (·.toChange) with
  | none =>
      constructor
      · intro isOk
        cases isOk
      · intro isSome
        cases isSome
  | some found => rw [Except.ok.injEq, Option.some.injEq]

theorem forall₂_mayStandFor (listed : List ListedChange) :
    List.Forall₂ MayStandFor listed (listed.map (·.toChange)) := by
  rw [List.forall₂_map_right_iff]
  exact List.forall₂_same.mpr fun record _ => mayStandFor_toChange record

/-- An accepted body is read as changes that it may be read as. -/
theorem mayList_of_parseListing (accepted : parseListing body = .ok changes) :
    MayList body changes := by
  obtain ⟨listed, areRecords, rfl⟩ := parseListing_eq_ok_iff.mp accepted
  exact ⟨listed, areRecords, forall₂_mayStandFor listed⟩

end

end ChangeGate.Service
