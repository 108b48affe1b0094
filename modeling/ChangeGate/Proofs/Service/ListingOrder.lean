import ChangeGate.Proofs.Json.MemberOrder
import ChangeGate.Proofs.Service.Identity
import Mathlib

/-!
# Listings in another order

The members of a listing may come in any order: the same bodies are accepted, and every field of a
change is taken by its key. Only the choice among several ways to fetch a revision is free. It is
made where the revision has neither a ref of its own nor one by http, and whatever way is taken, the
changes differ in their references and in nothing that is not read off them.
-/

namespace ChangeGate.Service

open ChangeGate.Json ChangeGate.Review

/-! ## Readers of records -/

theorem ignoresOrder_text? : IgnoresOrder text? :=
  ignoresOrder_of_scalar (fun _ => rfl) fun _ => rfl

theorem ignoresOrder_bool? : IgnoresOrder bool? :=
  ignoresOrder_of_scalar (fun _ => rfl) fun _ => rfl

theorem ignoresOrder_uint64? : IgnoresOrder uint64? :=
  ignoresOrder_of_scalar (fun _ => rfl) fun _ => rfl

theorem ignoresOrder_textRecord? (name : String) : IgnoresOrder (textRecord? name) := by
  apply ignoresOrder_fields_bind
  intro values others each
  rcases each with _ | ⟨text, _ | _⟩
  · rfl
  · exact ignoresOrder_text?.orDefault_eq "" text
  · rfl

theorem ignoresOrder_decode_revision : IgnoresOrder Revision.decode := by
  apply ignoresOrder_fields_bind
  intro values others each
  rcases each with
    _ | ⟨number, _ | ⟨reference, _ | ⟨fetch, _ | ⟨commit, _ | _⟩⟩⟩⟩
  -- Too few or too many values are refused on both sides.
  all_goals try rfl
  simp only [ignoresOrder_uint64?.orDefault_eq 0 number,
    ignoresOrder_text?.orDefault_eq "" reference,
    (ignoresOrder_textRecord? "ref").map?.orDefault_eq ∅ fetch,
    (ignoresOrder_textRecord? "message").nullable.orDefault_eq none commit]

theorem ignoresOrder_decode_listedChange : IgnoresOrder ListedChange.decode := by
  apply ignoresOrder_fields_bind
  intro values others each
  rcases each with
    _ | ⟨changeId, _ | ⟨number, _ | ⟨project, _ | ⟨topic, _ | ⟨owner, _ | ⟨currentRevision,
      _ | ⟨revisions, _ | ⟨submittable, _ | _⟩⟩⟩⟩⟩⟩⟩⟩
  all_goals try rfl
  simp only [ignoresOrder_text?.orDefault_eq "" changeId,
    ignoresOrder_uint64?.orDefault_eq 0 number,
    ignoresOrder_text?.orDefault_eq "" project,
    ignoresOrder_text?.nullable.orDefault_eq none topic,
    (ignoresOrder_textRecord? "email").orDefault_eq "" owner,
    ignoresOrder_text?.nullable.orDefault_eq none currentRevision,
    ignoresOrder_decode_revision.map?.orDefault_eq ∅ revisions,
    ignoresOrder_bool?.orDefault_eq false submittable]

/-! ## Records that leave no choice -/

/-- The ways to fetch a revision leave no choice. -/
inductive OneWay (revision : Revision) : Prop where
  | own (present : revision.reference ≠ "")
  | byHttp (reference : String) (listed : revision.fetch["http"]? = some reference)
  | agreed (reference : String)
      (each : ∀ (way : String) listed, revision.fetch[way]? = some listed → listed = reference)

/-- A record says under which reference its change is fetched. -/
def Settled (listed : ListedChange) : Prop :=
  ∀ revision, StandsAt listed revision → OneWay revision

/-- Two changes are the same but for their references, and what is read off them. -/
structure SameButReference (change other : Change) : Prop where
  rest : other = { change with
    number := other.number, patchset := other.patchset, reference := other.reference }
  through : change.reference = other.reference → change = other

section
variable {listed : ListedChange} {revision : Revision} {change other : Change}

/-- A record may be read under each of the refs that its current revision can be fetched under. -/
theorem mayStandFor_changeUnder (standsAt : StandsAt listed revision) {reference : String}
    (fetched : FetchedUnder revision reference) :
    MayStandFor listed (changeUnder listed reference) where
  offered := by
    intro otherRevision otherStandsAt
    have current := current?_eq_some_iff.mpr standsAt
    rw [current?_eq_some_iff.mpr otherStandsAt] at current
    rwa [Option.some.inj current]
  unplaced missing := absurd standsAt (missing revision)
  made := rfl

theorem MayStandFor.sameButReference (may : MayStandFor listed change)
    (also : MayStandFor listed other) : SameButReference change other := by
  rw [may.made, also.made]
  exact ⟨rfl, fun same => congrArg (changeUnder listed) same⟩

/-- A revision without a choice is fetched under one ref. -/
theorem OneWay.unique (oneWay : OneWay revision) {reference other : String}
    (fetched : FetchedUnder revision reference) (also : FetchedUnder revision other) :
    reference = other := by
  by_cases own : revision.reference = ""
  case neg => rw [fetched.own own, also.own own]
  cases http : revision.fetch["http"]? with
  | some listed => rw [fetched.byHttp own listed http, also.byHttp own listed http]
  | none =>
      cases oneWay with
      | own present => exact absurd own present
      | byHttp listed isHttp =>
          rw [http] at isHttp
          cases isHttp
      | agreed listed each =>
          by_cases empty : revision.fetch = ∅
          · rw [fetched.nowhere own empty, also.nowhere own empty]
          · obtain ⟨way, isWay⟩ := fetched.otherwise own http empty
            obtain ⟨otherWay, isOtherWay⟩ := also.otherwise own http empty
            rw [each way reference isWay, each otherWay other isOtherWay]

/-- Without a ref of its own and one by http, a revision is fetched in any way it lists. -/
theorem fetchedUnder_of_way (own : revision.reference = "") (http : revision.fetch["http"]? = none)
    {way reference : String} (isWay : revision.fetch[way]? = some reference) :
    FetchedUnder revision reference where
  own present := absurd own present
  byHttp := by
    intro _ listed isHttp
    rw [http] at isHttp
    cases isHttp
  otherwise _ _ _ := ⟨way, isWay⟩
  nowhere := by
    intro _ empty
    rw [empty] at isWay
    cases isWay

/-- A revision with a choice is fetched under different refs. -/
theorem exists_ne_of_not_oneWay (choice : ¬ OneWay revision) :
    ∃ reference other, reference ≠ other ∧ FetchedUnder revision reference ∧
      FetchedUnder revision other := by
  have own : revision.reference = "" := by_contra fun present => choice (.own present)
  have http : revision.fetch["http"]? = none :=
    Option.eq_none_iff_forall_ne_some.mpr fun listed isHttp => choice (.byHttp listed isHttp)
  by_contra agreed
  apply choice
  refine .agreed revision.fetchRef fun way reference isWay => ?_
  by_contra differs
  exact agreed ⟨_, _, differs, fetchedUnder_of_way own http isWay, fetchedUnder_fetchRef revision⟩

/-- A record says under which reference its change is fetched if it may be read as one change. -/
theorem settled_iff : Settled listed ↔
    ∀ change other, MayStandFor listed change → MayStandFor listed other → change = other := by
  constructor
  · intro settled change other may also
    apply (may.sameButReference also).through
    by_cases placed : ∃ revision, StandsAt listed revision
    · obtain ⟨revision, standsAt⟩ := placed
      exact (settled revision standsAt).unique (may.offered revision standsAt)
        (also.offered revision standsAt)
    · rw [not_exists] at placed
      rw [may.unplaced placed, also.unplaced placed]
  · intro unique revision standsAt
    by_contra choice
    obtain ⟨reference, other, differs, fetched, also⟩ := exists_ne_of_not_oneWay choice
    have same := unique _ _ (mayStandFor_changeUnder standsAt fetched)
      (mayStandFor_changeUnder standsAt also)
    exact differs (congrArg Change.reference same)

end

section
variable {body : String} {listed : List ListedChange} {changes others : List Change}

/-- A body is accepted if it may be read as anything. -/
theorem exists_parseListing_iff :
    (∃ changes, parseListing body = .ok changes) ↔ ∃ changes, MayList body changes := by
  constructor
  · rintro ⟨changes, accepted⟩
    exact ⟨changes, mayList_of_parseListing accepted⟩
  · rintro ⟨_, listed, areRecords, -⟩
    exact ⟨_, parseListing_eq_ok_iff.mpr ⟨listed, areRecords, rfl⟩⟩

theorem mayList_iff (areRecords : records? body = some listed) :
    MayList body changes ↔ List.Forall₂ MayStandFor listed changes := by
  simp only [MayList, areRecords, Option.some.injEq, exists_eq_left']

theorem forall₂_sameButReference (may : List.Forall₂ MayStandFor listed changes)
    (also : List.Forall₂ MayStandFor listed others) :
    List.Forall₂ SameButReference changes others := by
  induction may generalizing others with
  | nil =>
      cases also
      exact .nil
  | cons first _ inductionHypothesis =>
      cases also with
      | cons otherFirst rest =>
          exact .cons (first.sameButReference otherFirst) (inductionHypothesis rest)

/-- Where a record leaves no choice, its change is the same. -/
theorem getElem?_eq_of_settled (may : List.Forall₂ MayStandFor listed changes)
    (also : List.Forall₂ MayStandFor listed others) {place : Nat} {record : ListedChange}
    (isRecord : listed[place]? = some record) (settled : Settled record) :
    changes[place]? = others[place]? := by
  -- Along the records, with both readings beside them: another record may leave a choice.
  induction may generalizing others place with
  | nil => cases isRecord
  | cons first _ inductionHypothesis =>
      cases also with
      | cons otherFirst rest =>
          cases place with
          | zero =>
              cases isRecord
              exact congrArg some (settled_iff.mp settled _ _ first otherFirst)
          | succ place => exact inductionHypothesis rest isRecord

/-- Records are read as one list of changes exactly if none of them leaves a choice. -/
theorem forall_settled_iff : (∀ record ∈ listed, Settled record) ↔
    ∀ changes others, List.Forall₂ MayStandFor listed changes →
      List.Forall₂ MayStandFor listed others → changes = others := by
  constructor
  · intro settled changes others may also
    apply List.ext_getElem?
    intro place
    cases isRecord : listed[place]? with
    | none =>
        rw [List.getElem?_eq_none_iff] at isRecord
        rw [List.getElem?_eq_none (may.length_eq ▸ isRecord),
          List.getElem?_eq_none (also.length_eq ▸ isRecord)]
    | some record =>
        exact getElem?_eq_of_settled may also isRecord
          (settled record (List.mem_of_getElem? isRecord))
  · -- Two readings of one record are two readings of the list, all others being read as usual.
    intro unique record member
    rw [settled_iff]
    intro change other may also
    obtain ⟨before, after, rfl⟩ := List.append_of_mem member
    have same := unique _ _
      (List.rel_append (forall₂_mayStandFor before) (.cons may (forall₂_mayStandFor after)))
      (List.rel_append (forall₂_mayStandFor before) (.cons also (forall₂_mayStandFor after)))
    exact (List.cons.inj (List.append_cancel_left same)).1

end

/-! ## Bodies in another order -/

/-- What two bodies are read as that hold the same in different orders. -/
structure ReadAlike (body other : String) : Prop where
  /-- Both are accepted or neither. -/
  accepted : (∃ changes, parseListing body = .ok changes) ↔
    ∃ changes, parseListing other = .ok changes
  /-- Each is read as changes that it may be read as. -/
  read : ∀ changes, parseListing body = .ok changes → MayList body changes
  readOther : ∀ changes, parseListing other = .ok changes → MayList other changes
  /-- Both may be read as the same lists of changes. -/
  same : ∀ changes, MayList body changes ↔ MayList other changes
  /-- Only references may differ, however the two are read. -/
  alike : ∀ changes others, MayList body changes → MayList other others →
    List.Forall₂ SameButReference changes others
  /-- A change is the same where its record leaves no choice. -/
  settled : ∀ listed changes others, records? body = some listed → MayList body changes →
    MayList other others → ∀ (place : Nat) record, listed[place]? = some record → Settled record →
    changes[place]? = others[place]?
  /-- The changes are the same if and only if no record leaves a choice. -/
  determined : ∀ listed, records? body = some listed → ((∀ record ∈ listed, Settled record) ↔
    ∀ changes others, MayList body changes → MayList other others → changes = others)

/-- Bodies with the same records are read alike. -/
theorem readAlike_of_records {body other : String} (same : records? body = records? other) :
    ReadAlike body other := by
  have sameAnswers (changes : List Change) : MayList body changes ↔ MayList other changes := by
    rw [MayList, MayList, same]
  constructor
  · rw [exists_parseListing_iff, exists_parseListing_iff]
    exact exists_congr sameAnswers
  · exact fun _ => mayList_of_parseListing
  · exact fun _ => mayList_of_parseListing
  · exact sameAnswers
  · rintro changes others ⟨listed, areRecords, may⟩ also
    rw [← sameAnswers, mayList_iff areRecords] at also
    exact forall₂_sameButReference may also
  · intro listed changes others areRecords may also place record
    rw [← sameAnswers, mayList_iff areRecords] at also
    exact getElem?_eq_of_settled ((mayList_iff areRecords).mp may) also
  · intro listed areRecords
    simp only [← sameAnswers, mayList_iff areRecords]
    exact forall_settled_iff

/-- Bodies that differ only in the order of members are read alike, if no key is repeated. -/
theorem readAlike_of_rearranged {body other : String} {document otherDocument : Value}
    (parsed : parse? (listingText body) = some document)
    (otherParsed : parse? (listingText other) = some otherDocument)
    (rearranged : Rearranged document otherDocument) : ReadAlike body other := by
  apply readAlike_of_records
  rw [records?, records?, parsed, otherParsed]
  exact ignoresOrder_decode_listedChange.list? document otherDocument rearranged

/-! ## A listing that leaves a choice -/

/-- A document that lists one change with ways to fetch it. -/
def documentOfWays (ways : List (String × String)) : Value :=
  let members := ways.map fun (way, reference) => (way, .ofMembers [("ref", .ofText reference)])
  .array [.ofMembers [("current_revision", .ofText "r"),
    ("revisions", .ofMembers [("r", .ofMembers [("fetch", .ofMembers members)])])]]

theorem keysOnce_documentOfWays {ways : List (String × String)}
    (distinct : (ways.map Prod.fst).Nodup) : KeysOnce (documentOfWays ways) := by
  have text {text : String} : KeysOnce (.ofText text) := .string _
  have single {key : String} {value : Value} (once : KeysOnce value) :
      KeysOnce (.ofMembers [(key, value)]) := by
    apply keysOnce_ofMembers
    · exact List.pairwise_singleton _ key
    · exact List.forall_mem_singleton.mpr once
  rw [documentOfWays]
  apply KeysOnce.array
  rw [List.forall_mem_singleton]
  apply keysOnce_ofMembers
  · change ["current_revision", "revisions"].Nodup
    decide
  rw [List.forall_mem_cons, List.forall_mem_singleton]
  refine ⟨text, single (single (keysOnce_ofMembers ?_ ?_))⟩
  · rwa [List.map_map]
  · rw [List.forall_mem_map]
    exact fun _ _ => single text

theorem reordered_documentOfWays {ways others : List (String × String)} (perm : ways.Perm others) :
    Reordered (documentOfWays ways) (documentOfWays others) := by
  have fetch := reordered_ofMembers_of_perm
    (perm.map fun (way, reference) => (way, Value.ofMembers [("ref", .ofText reference)]))
  have revision := reordered_ofMembers_concat [] "fetch" fetch
  have revisions := reordered_ofMembers_concat [] "r" revision
  have record :=
    reordered_ofMembers_concat [("current_revision", .ofText "r")] "revisions" revisions
  exact .array (.cons record .nil)

/-- Two ways to fetch a change, each to another patchset. -/
def twoWays : List (String × String) :=
  [("git", "refs/changes/01/1/1"), ("ssh", "refs/changes/01/1/2")]

/-- A listing of a change with these ways. -/
def gitFirst : String :=
  "[\x7b\"current_revision\":\"r\",\"revisions\":\x7b\"r\":\x7b\"fetch\":\x7b" ++
    "\"git\":\x7b\"ref\":\"refs/changes/01/1/1\"\x7d," ++
    "\"ssh\":\x7b\"ref\":\"refs/changes/01/1/2\"\x7d\x7d\x7d\x7d\x7d]"

/-- The same listing in another order. -/
def sshFirst : String :=
  "[\x7b\"current_revision\":\"r\",\"revisions\":\x7b\"r\":\x7b\"fetch\":\x7b" ++
    "\"ssh\":\x7b\"ref\":\"refs/changes/01/1/2\"\x7d," ++
    "\"git\":\x7b\"ref\":\"refs/changes/01/1/1\"\x7d\x7d\x7d\x7d\x7d]"

theorem parse?_gitFirst : parse? (listingText gitFirst) = some (documentOfWays twoWays) := by
  cbv

theorem parse?_sshFirst :
    parse? (listingText sshFirst) = some (documentOfWays twoWays.reverse) := by
  cbv

theorem rearranged_twoWays :
    Rearranged (documentOfWays twoWays) (documentOfWays twoWays.reverse) where
  once := keysOnce_documentOfWays (by decide)
  reordered := reordered_documentOfWays twoWays.reverse_perm.symm

/-- The two listings are read alike. -/
theorem readAlike_of_twoWays :
    parse? (listingText gitFirst) = some (documentOfWays twoWays) ∧
      parse? (listingText sshFirst) = some (documentOfWays twoWays.reverse) ∧
      Rearranged (documentOfWays twoWays) (documentOfWays twoWays.reverse) ∧
      ReadAlike gitFirst sshFirst :=
  ⟨parse?_gitFirst, parse?_sshFirst, rearranged_twoWays,
    readAlike_of_rearranged parse?_gitFirst parse?_sshFirst rearranged_twoWays⟩

/-- They need not be read as the same change: one is read as the first patchset, and the other may
be read as the second. -/
theorem readings_differ_of_twoWays :
    let change : Change := { number := 1, patchset := 1 }
    let otherChange : Change := { number := 1, patchset := 2 }
    parse? (listingText gitFirst) = some (documentOfWays twoWays) ∧
      parse? (listingText sshFirst) = some (documentOfWays twoWays.reverse) ∧
      Rearranged (documentOfWays twoWays) (documentOfWays twoWays.reverse) ∧
      parseListing gitFirst = .ok [change] ∧ MayList sshFirst [otherChange] ∧
      change ≠ otherChange := by
  intro change otherChange
  have accepted : parseListing gitFirst = .ok [change] := by
    rw [parseListing, parse?_gitFirst]
    decide +kernel
  let revision : Revision := { fetch := .ofList twoWays.reverse }
  let listed : ListedChange :=
    { currentRevision := some "r", revisions := .ofList [("r", revision)] }
  have areRecords : records? sshFirst = some [listed] := by
    rw [records?, parse?_sshFirst]
    decide +kernel
  have standsAt : StandsAt listed revision := ⟨"r", rfl, by decide +kernel⟩
  have isWay : revision.fetch["ssh"]? = some otherChange.reference := by decide +kernel
  have fetched : FetchedUnder revision otherChange.reference :=
    fetchedUnder_of_way rfl (by decide +kernel) isWay
  have made : changeUnder listed otherChange.reference = otherChange := by decide +kernel
  have may : MayStandFor listed otherChange := made ▸ mayStandFor_changeUnder standsAt fetched
  exact ⟨parse?_gitFirst, parse?_sshFirst, rearranged_twoWays, accepted,
    (mayList_iff areRecords).mpr (.cons may .nil), by decide⟩

end ChangeGate.Service
