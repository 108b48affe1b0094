import ChangeGate.Memory.Session
import ChangeGate.Proofs.Round.Handover
import Mathlib.Data.Finset.Dedup

/-!
# Rounds after rounds

Sessions in which rounds run on one log, while what the servers list and where they fail changes
freely between them. A log that can be loaded stays one, and what was handed over once is not
handed over again as long as its members stay open.
-/

namespace ChangeGate.Memory

open ChangeGate.Ci ChangeGate.Review ChangeGate.Round ChangeGate.Service

namespace Session

/-- Set up several things, in order. -/
def setUpAll (session : Session) (setups : List Setup) : Session :=
  setups.foldl setUp session

/-- Set something up and run a round. -/
def round (session : Session) (setups : List Setup) : Session :=
  ((session.setUpAll setups).step .run).2

/-- The session after some rounds, each told by what is set up before it. -/
def rounds (session : Session) (all : List (List Setup)) : Session :=
  all.foldl round session

/-- The session in which the round of an index runs, with everything set up for it. -/
def atRound (session : Session) (all : List (List Setup)) (index : Nat) : Session :=
  (session.rounds (all.take index)).setUpAll (all.getD index [])

/-- The round that a session would run next. -/
def nextRound (session : Session) : Observation (Except Failure Report) :=
  observe (run session.settings (observed session.settings.gate.logFile)) session.world

/-! ## What rounds do to a session -/

theorem log_setUp (session : Session) (setup : Setup) :
    (session.setUp setup).world.log = session.world.log := by
  cases setup with
  | _ => rfl

/-- Setting up leaves the log alone. -/
theorem log_setUpAll (session : Session) (setups : List Setup) :
    (session.setUpAll setups).world.log = session.world.log := by
  induction setups generalizing session with
  | nil => rfl
  | cons setup rest inductionHypothesis =>
      exact (inductionHypothesis (session.setUp setup)).trans (session.log_setUp setup)

/-- A step that runs a round does what the round was observed to do. -/
theorem world_step_run (session : Session) :
    (session.step .run).2.world = session.nextRound.after := by
  have runs := run_eq_of_erasure (Simulation.run
    (erasure_serves_observed session.settings.gate.logFile) session.settings) session.world
  exact congrArg Prod.snd runs

theorem log_atRound (session : Session) (all : List (List Setup)) (index : Nat) :
    (session.atRound all index).world.log = (session.rounds (all.take index)).world.log :=
  log_setUpAll _ _

/-- One round more is the round of the next index. -/
theorem world_rounds_take_succ (session : Session) {all : List (List Setup)} {index : Nat}
    (present : index < all.length) :
    (session.rounds (all.take (index + 1))).world =
      (session.atRound all index).nextRound.after := by
  have setups : all.getD index [] = all[index] := (List.getElem_eq_getD []).symm
  rw [← world_step_run, atRound, setups, rounds, List.take_succ_eq_append_getElem present]
  rw [List.foldl_append]
  rfl

/-- Rounds keep a log loadable. -/
theorem loadable_rounds (session : Session) (all : List (List Setup))
    (loadable : session.world.log.Loadable) (made : session.world.log ≠ .unmade) :
    (session.rounds all).world.log.Loadable := by
  -- The invariant has two parts: a folder made by a failing write could never be loaded.
  induction all generalizing session with
  | nil => exact loadable
  | cons setups rest inductionHypothesis =>
      have log := session.log_setUpAll setups
      obtain ⟨loadableAfter, madeAfter⟩ := loadable_after_run
        (session.setUpAll setups).settings.gate.logFile (session.setUpAll setups).settings
        (session.setUpAll setups).world (log ▸ loadable) (log ▸ made)
      have world : (session.round setups).world = (session.setUpAll setups).nextRound.after :=
        world_step_run _
      apply inductionHypothesis (session.round setups)
      · rw [world]
        exact loadableAfter
      · rw [world]
        exact madeAfter

end Session

/-- Every round, whatever fails in it, leaves the log as it was or replaces it by the record of the
open changes; and rounds on a missing or loadable log keep it loadable, unless a failing write
makes a folder in its place. -/
theorem log_kept_or_recorded :
    (∀ path settings world,
      LogAtomic path settings world (observe (run settings (observed path)) world)) ∧
    ∀ (session : Session) (all : List (List Setup)), session.world.log.Loadable →
      session.world.log ≠ .unmade → (session.rounds all).world.log.Loadable :=
  ⟨logAtomic_run, fun session all loadable made => session.loadable_rounds all loadable made⟩

/-- A missing log stays loadable: a first round records the open changes, a second one starts a
build and records them although its submit fails, and a red one and one whose query fails leave
it. -/
theorem log_kept_or_recorded_of_missing :
    let settings : Settings :=
      { ci := { host := "http://ci" }
        gate := { trustedDomains := ["x.org"] }
        projects := .ofList [("p", (⟨["unit"]⟩ : ProjectSettings))] }
    let session : Session := { settings }
    let first : Change := { number := 1, patchset := 1 }
    let ready : Change :=
      { number := 7, patchset := 2, project := "p", owner := "a@x.org", message := "AutoSubmit",
        submittable := true }
    let next : Change := { number := 7, patchset := 3, project := "p", owner := "a@x.org" }
    let all : List (List Setup) :=
      [[.changes [first]], [.changes [first, ready], .failSubmitsTo ready.reference],
        [.changes [next], .lastStatus ⟨3, some "FAILURE"⟩], [.lastStatus {}, .failQueries true]]
    let second := (session.atRound all 1).nextRound
    second.answer = .error (.review (.refused (.submit ready.reference))) ∧
      second.after.ci.added.length = 1 ∧ second.after.log = .file (recordBytes [first, ready]) ∧
      (session.rounds all).world.log = second.after.log ∧
      (∀ index, LogAtomic settings.gate.logFile settings (session.atRound all index).world
        (observe (run settings (observed settings.gate.logFile))
          (session.atRound all index).world)) ∧
      (session.rounds all).world.log.Loadable := by
  intro settings session first ready next all second
  have kept : (session.rounds all).world.log = second.after.log := by decide +kernel
  refine ⟨by decide +kernel, by decide +kernel, by decide +kernel, kept, ?_, ?_⟩
  · exact fun index => log_kept_or_recorded.1 _ settings _
  · exact log_kept_or_recorded.2 session all ⟨∅, rfl⟩ (by decide)

/-! ## Handover over at most once -/

/-- Whatever record the log holds covers some refs. -/
def LogFile.Covers (log : LogFile) (refs : Finset ChangeRef) : Prop :=
  ∀ seen, SeenLog.load log.read = .ok seen → ∀ ref ∈ refs, seen.Covers ref

/-- Some open changes still have every ref of a set: its change can be fetched, at its patchset or
a later one. -/
def Retain (changes : List Change) (refs : Finset ChangeRef) : Prop :=
  ∀ ref ∈ refs, ∃ change ∈ changes,
    change.number = ref.number ∧ change.reference ≠ "" ∧ ref.patchset ≤ change.patchset

/-- The record of some open changes covers the refs that they still have. -/
theorem covers_recordBytes {changes : List Change} {refs : Finset ChangeRef}
    (retain : Retain changes refs) : (LogFile.file (recordBytes changes)).Covers refs := by
  intro seen loaded ref isMember
  obtain ⟨change, member, same, present, atLeast⟩ := retain ref isMember
  rw [load_recordBytes] at loaded
  rw [← Except.ok.inj loaded]
  exact SeenLog.record_covers member ((Change.fetchable_iff change).mpr present) same atLeast

namespace Session

/-- The open changes that the next round reads, if it gets to read them. -/
def snapshot? (session : Session) : Option (List Change) :=
  match reading session.settings session.world with
  | .snapshot _ changes => some changes
  | _ => none

/-- The next round can write the log, if it gets to. -/
def WritesLog (session : Session) : Prop :=
  ∀ changes, session.snapshot? = some changes →
    (session.world.log.replace (recordBytes changes)).1 = .ok ()

/-- The next round hands over a group or a rejected set with exactly these refs. -/
def HandsExactly (session : Session) (refs : Finset ChangeRef) : Prop :=
  ∃ members ∈ (handed session.settings session.world).memberLists,
    (members.map (·.ref)).toFinset = refs

theorem snapshot?_eq_some {session : Session} {seen : Patchsets} {changes : List Change}
    (read : reading session.settings session.world = .snapshot seen changes) :
    session.snapshot? = some changes := by
  rw [snapshot?, read]

/-- A round after which the log covers some refs keeps it so while they stay open. -/
theorem covers_nextRound {session : Session} {refs : Finset ChangeRef}
    (covers : session.world.log.Covers refs)
    (retain : ∀ changes, session.snapshot? = some changes → Retain changes refs) :
    session.nextRound.after.log.Covers refs := by
  rw [nextRound, log_after_run]
  cases read : reading session.settings session.world with
  | snapshot seen changes =>
      dsimp only
      rcases LogFile.replace_cases session.world.log (recordBytes changes) with
        replaced | kept | ⟨-, folder⟩
      · rw [replaced]
        exact covers_recordBytes (retain changes (snapshot?_eq_some read))
      · rw [kept]
        exact covers
      · rw [folder]
        intro seen loaded
        cases loaded
  | _ => exact covers

/-- The members of what is handed over were read among the open changes and can be fetched. -/
theorem exists_snapshot?_of_mem_handed {session : Session} {members : List Change}
    (isHanded : members ∈ (handed session.settings session.world).memberLists) :
    ∃ changes, session.snapshot? = some changes ∧
      ∀ change ∈ members, change ∈ changes ∧ change.reference ≠ "" := by
  obtain ⟨seen, changes, read, isFresh⟩ := exists_snapshot_of_mem_handed isHanded
  obtain ⟨-, listed, -⟩ := Grouping.of_mem_memberLists_fresh isFresh
  refine ⟨changes, snapshot?_eq_some read, ?_⟩
  intro change member
  have grouped : change ∈ (Grouping.ofChanges changes).members := by
    rw [← Grouping.flatten_memberLists]
    exact List.mem_flatten.mpr ⟨members, listed, member⟩
  have found : change ∈ changes.filter (·.fetchable) :=
    (Grouping.perm_members_ofChanges changes).mem_iff.mp grouped
  have fetchable := Grouping.fetchable_of_mem_ofChanges changes grouped
  exact ⟨(List.mem_filter.mp found).1, (Change.fetchable_iff change).mp fetchable⟩

/-- A round that reads the open changes and can write the log records them. -/
theorem log_nextRound_of_snapshot {session : Session} {changes : List Change}
    (read : session.snapshot? = some changes)
    (written : (session.world.log.replace (recordBytes changes)).1 = .ok ()) :
    session.nextRound.after.log = .file (recordBytes changes) := by
  rw [nextRound, log_after_run]
  rw [snapshot?] at read
  cases reads : reading session.settings session.world with
  | snapshot seen listed =>
      rw [reads] at read
      rw [← Option.some.inj read] at written ⊢
      exact LogFile.replace_of_ok written
  | _ =>
      rw [reads] at read
      cases read

/-- A round that can write the log leaves one that covers the refs of what it hands over. -/
theorem covers_nextRound_of_mem_handed {session : Session} {members : List Change}
    (writes : session.WritesLog)
    (isHanded : members ∈ (handed session.settings session.world).memberLists) :
    session.nextRound.after.log.Covers (members.map (·.ref)).toFinset := by
  obtain ⟨changes, read, found⟩ := exists_snapshot?_of_mem_handed isHanded
  rw [log_nextRound_of_snapshot read (writes changes read)]
  apply covers_recordBytes
  intro ref isMember
  rw [List.mem_toFinset] at isMember
  obtain ⟨change, member, rfl⟩ := List.mem_map.mp isMember
  obtain ⟨isListed, present⟩ := found change member
  exact ⟨change, isListed, rfl, present, UInt64.le_refl _⟩

/-- A round that hands over exactly some refs leaves a log that covers them, if it can write it. -/
theorem HandsExactly.covers_nextRound {session : Session} {refs : Finset ChangeRef}
    (hands : session.HandsExactly refs) (writes : session.WritesLog) :
    session.nextRound.after.log.Covers refs := by
  obtain ⟨members, isHanded, rfl⟩ := hands
  exact covers_nextRound_of_mem_handed writes isHanded

/-- Nothing with only refs that the log covers is handed over. -/
theorem not_handsExactly_of_covers {session : Session} {refs : Finset ChangeRef}
    (covers : session.world.log.Covers refs) : ¬ session.HandsExactly refs := by
  rintro ⟨members, isHanded, same⟩
  obtain ⟨seen, changes, read, isFresh⟩ := exists_snapshot_of_mem_handed isHanded
  obtain ⟨-, -, change, member, unseen⟩ := Grouping.of_mem_memberLists_fresh isFresh
  obtain ⟨-, loaded, -⟩ := of_reading_eq_snapshot read
  have isMember : change.ref ∈ refs := by
    rw [← same, List.mem_toFinset]
    exact List.mem_map_of_mem member
  exact unseen.not_covers (covers seen loaded change.ref isMember)

/-- Once the log covers some refs and while they stay open, it covers them after every round. -/
theorem covers_rounds_of_covers (session : Session) (all : List (List Setup))
    {refs : Finset ChangeRef} {first later : Nat}
    (covers : (session.atRound all first).nextRound.after.log.Covers refs)
    (follows : first < later) (present : later ≤ all.length)
    (retain : ∀ index, first < index → index < later →
      ∀ changes, (session.atRound all index).snapshot? = some changes → Retain changes refs) :
    (session.rounds (all.take later)).world.log.Covers refs := by
  -- By induction on the later round: the log covers the refs from the first round on, whether a
  -- round replaces it by a record that still has them or leaves it alone.
  induction later with
  | zero => exact absurd follows (Nat.not_lt_zero first)
  | succ index inductionHypothesis =>
      rw [session.world_rounds_take_succ present]
      rcases Nat.lt_succ_iff_lt_or_eq.mp follows with isLater | isFirst
      · apply covers_nextRound
        · rw [log_atRound]
          apply inductionHypothesis isLater (Nat.le_of_succ_le present)
          intro other after before
          exact retain other after (Nat.lt_succ_of_lt before)
        · exact retain index isLater (Nat.lt_succ_self index)
      · rw [← isFirst]
        exact covers

/-- Once some refs were handed over and recorded, and while they stay open, the log covers them
after every round. -/
theorem covers_rounds (session : Session) (all : List (List Setup)) {refs : Finset ChangeRef}
    {first later : Nat} (hands : (session.atRound all first).HandsExactly refs)
    (writes : (session.atRound all first).WritesLog) (follows : first < later)
    (present : later ≤ all.length)
    (retain : ∀ index, first < index → index < later →
      ∀ changes, (session.atRound all index).snapshot? = some changes → Retain changes refs) :
    (session.rounds (all.take later)).world.log.Covers refs :=
  session.covers_rounds_of_covers all (hands.covers_nextRound writes) follows present retain

/-- Against the record of the same open changes there is nothing to hand over. -/
theorem handed_eq_nothing {session : Session} {changes : List Change}
    (recorded : session.world.log = .file (recordBytes changes))
    (same : session.world.review.changes = changes) :
    handed session.settings session.world = ⟨[], []⟩ := by
  apply Grouping.eq_nothing_of_memberLists
  apply List.eq_nil_iff_forall_not_mem.mpr
  intro members isHanded
  obtain ⟨seen, listed, read, isFresh⟩ := exists_snapshot_of_mem_handed isHanded
  obtain ⟨-, loaded, answered⟩ := of_reading_eq_snapshot read
  rw [recorded, load_recordBytes] at loaded
  rw [ReviewState.changes_of_query answered, same, ← Except.ok.inj loaded] at isFresh
  rw [SeenLog.fresh_record] at isFresh
  cases isFresh

end Session

/-- What rounds on one log hand over, however the settings, the open changes and the failures of
the servers change between them. -/
structure HandedOnce (session : Session) (all : List (List Setup)) : Prop where
  /-- What a round hands over is what its journal shows. -/
  shown : ∀ index, index < all.length →
    let current := session.atRound all index
    (current.step .run).2.world = current.nextRound.after ∧
      HandsOver current.settings current.settings.gate.logFile
        (handed current.settings current.world) current.nextRound
  /-- What was handed over, by a round that could write the log, is not handed over again while its
  members stay open. -/
  notAgain : ∀ refs first later, first < later → later < all.length →
    (session.atRound all first).HandsExactly refs → (session.atRound all first).WritesLog →
    (∀ index, first < index → index < all.length →
      ∀ changes, (session.atRound all index).snapshot? = some changes → Retain changes refs) →
    ¬ (session.atRound all later).HandsExactly refs
  /-- A round after one that wrote the log leaves posts and builds alone where the open changes
  are the same. -/
  settled : ∀ index changes, index + 1 < all.length →
    let first := session.atRound all index
    let second := session.atRound all (index + 1)
    first.snapshot? = some changes →
    (first.world.log.replace (recordBytes changes)).1 = .ok () →
    second.world.review.changes = changes →
    Untouched second.world (second.step .run).2.world ∧
      ∀ call ∈ second.nextRound.calls, LeavesAlone call

/-- Groups and rejected sets are handed over at most once for each combination of patchsets. -/
theorem rounds_handedOnce (session : Session) (all : List (List Setup)) :
    HandedOnce session all where
  shown index present := by
    exact ⟨Session.world_step_run _, handsOver_run _ _ _⟩
  notAgain refs first later follows present hands writes retain := by
    apply Session.not_handsExactly_of_covers
    rw [Session.log_atRound]
    apply session.covers_rounds all hands writes follows (Nat.le_of_lt present)
    intro index after before
    exact retain index after (Nat.lt_trans before present)
  settled index changes present read written same := by
    have recorded : (session.atRound all (index + 1)).world.log = .file (recordBytes changes) := by
      rw [Session.log_atRound, session.world_rounds_take_succ (Nat.lt_of_succ_lt present)]
      exact Session.log_nextRound_of_snapshot read written
    have nothing := Session.handed_eq_nothing recorded same
    rw [Session.world_step_run]
    exact observe_run_of_handed_nothing _ nothing

/-- A round reads the open changes that the server lists. -/
theorem Session.changes_of_snapshot? {session : Session} {changes : List Change}
    (read : session.snapshot? = some changes) : changes = session.world.review.changes := by
  rw [snapshot?] at read
  cases reads : reading session.settings session.world with
  | snapshot seen listed =>
      rw [reads] at read
      rw [← Option.some.inj read]
      exact ReviewState.changes_of_query (of_reading_eq_snapshot reads).2.2
  | _ =>
      rw [reads] at read
      cases read

/-- A second patchset is handed over by the first round that sees it and not by the next. -/
theorem rounds_handedOnce_of_second_patchset :
    let seen : Patchsets := Patchsets.put ∅ ⟨1, 1⟩
    let change : Change := { number := 1, patchset := 2 }
    let session : Session :=
      { settings := { ci := { host := "ci" } }
        world := { log := .file (SeenLog.render seen).toUTF8 } }
    let all : List (List Setup) := [[.changes [change]], [.changes [change]]]
    (session.atRound all 0).HandsExactly [⟨1, 2⟩].toFinset ∧
      ¬ (session.atRound all 1).HandsExactly [⟨1, 2⟩].toFinset := by
  intro seen change session all
  have recorded : seen ≠ ∅ := Patchsets.put_ne_empty ∅ ⟨1, 1⟩
  have unseen : change.Unseen seen := Change.unseen_put ∅ rfl (by decide)
  have hands : (session.atRound all 0).HandsExactly [⟨1, 2⟩].toFinset := by
    have read : reading (session.atRound all 0).settings (session.atRound all 0).world =
        .snapshot seen [change] :=
      reading_eq_snapshot (by decide) (SeenLog.load_render seen) rfl
    have enabled : (session.atRound all 0).settings.dispatchEnabled = true := by decide
    have alone : Grouping.ofChanges [change] = ⟨[⟨[change]⟩], []⟩ := by decide
    refine ⟨[change], ?_, rfl⟩
    rw [handed, read]
    simp only [enabled, if_true]
    rw [alone, Grouping.fresh_eq recorded]
    simp [unseen, Grouping.memberLists]
  refine ⟨hands, ?_⟩
  apply (rounds_handedOnce session all).notAgain _ 0 1 (by decide) (by decide) hands
    (fun _ _ => rfl)
  intro index after before changes read
  have isSecond : index = 1 := Nat.le_antisymm (Nat.le_of_lt_succ before) after
  rw [isSecond] at read
  rw [Session.changes_of_snapshot? read]
  intro ref isMember
  rw [List.mem_toFinset, List.mem_singleton] at isMember
  rw [isMember]
  exact ⟨change, List.mem_singleton_self change, rfl, by decide, UInt64.le_refl _⟩

end ChangeGate.Memory
