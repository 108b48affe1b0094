import ChangeGate.Proofs.Ci.Refs
import ChangeGate.Proofs.Memory.Rounds
import ChangeGate.Proofs.Review.Parts
import ChangeGate.Proofs.Round.Builds

/-!
# Builds over rounds

What is new is told by all members of a group, but a build names only the members in known projects.
While the changes that a build names stay open, a later round adds a build of the same refs only for
a group in which a member of another project is new.
-/

namespace ChangeGate.Round

open ChangeGate.Ci ChangeGate.Memory ChangeGate.Review

theorem eq_paramsFor_of_verdict {settings : Settings} {known : Group} {params : BuildParams}
    {tests : List String} (decided : verdict settings known = .build params tests) :
    params = paramsFor known tests := by
  rcases gate_cases settings known with
    absent | asked | ⟨present, asksForTests, noTests⟩ | ⟨asksForTests, hasTests, distrusted⟩
      | buildable
  · rw [verdict_eq_empty absent] at decided
    cases decided
  · rw [verdict_eq_optedOut asked] at decided
    cases decided
  · rw [verdict_eq_noTests present asksForTests noTests] at decided
    cases decided
  · rw [verdict_eq_askPerson asksForTests hasTests distrusted] at decided
    cases decided
  · rw [verdict_eq_build buildable] at decided
    cases decided
    rfl

/-- A build that is started for a group names its members in known projects, where they are listed
under their own refs. -/
theorem namedRefs_of_mem_buildsFor {settings : Settings} {failStarts : Bool} {group : Group}
    {build : AddedBuild} (started : build ∈ buildsFor settings failStarts group)
    (ownRefs : ∀ change ∈ group.members, change.reference = change.ref.text) :
    namedRefs build.refs = (considered settings group).members.map (·.ref) := by
  rw [buildsFor] at started
  cases decided : verdictOn settings group with
  | build params tests =>
      rw [decided, Verdict.builds] at started
      split at started
      · cases started
      · rw [List.mem_singleton.mp started, eq_paramsFor_of_verdict decided, paramsFor,
          refs_buildParams]
        have references : (considered settings group).references =
            ((considered settings group).members.map (·.ref)).map (·.text) := by
          rw [Group.references, List.map_map]
          apply List.map_congr_left
          intro change member
          exact ownRefs change (List.mem_filter.mp member).1
        rw [references, namedRefs_intercalate]
  | _ =>
      rw [decided] at started
      cases started

end ChangeGate.Round

namespace ChangeGate.Memory

open ChangeGate.Ci ChangeGate.Review ChangeGate.Round ChangeGate.Service

/-- Each change is listed once, under its own ref. -/
def ListsCanonically (changes : List Change) : Prop :=
  (changes.map (·.number)).Nodup ∧ ∀ change ∈ changes, change.reference = change.ref.text

instance (changes : List Change) : Decidable (ListsCanonically changes) :=
  inferInstanceAs (Decidable (_ ∧ _))

namespace Session

/-- The builds that the next round adds. -/
def added (session : Session) : List AddedBuild :=
  (session.step .run).2.world.ci.added.drop session.world.ci.added.length

/-- A round adds the builds of the groups that it hands over. -/
theorem added_eq (session : Session) :
    session.added =
      (handed session.settings session.world).groups.flatMap
        (buildsFor session.settings session.world.ci.failStarts) := by
  rw [added, world_step_run, nextRound, ci_run, added_foldl_ciAfter, List.drop_left]

/-- Every round of some that reads the open changes finds them listed canonically. -/
def ReadsCanonically (session : Session) (all : List (List Setup)) : Prop :=
  ∀ index, index < all.length → ∀ changes,
    (session.atRound all index).snapshot? = some changes → ListsCanonically changes

/-- After a round every change that a build names stays open, at its patchset or past it. -/
def KeepsOpen (session : Session) (all : List (List Setup)) (first : Nat) (build : AddedBuild) :
    Prop :=
  ∀ index, first < index → index < all.length → ∀ changes,
    (session.atRound all index).snapshot? = some changes →
      Retain changes (namedRefs build.refs).toFinset

/-- No round adds a build of the refs of a build that an earlier one added and whose changes stay
open. -/
def BuildsOnce (session : Session) (all : List (List Setup)) : Prop :=
  ∀ first later, first < later → later < all.length →
    ∀ build ∈ (session.atRound all first).added, session.KeepsOpen all first build →
      ∀ again ∈ (session.atRound all later).added, again.refs ≠ build.refs

/-- The next round adds the build for a group in which a member of a project that is not known is
new. -/
def BuildsForUnknown (session : Session) (build : AddedBuild) : Prop :=
  ∃ group ∈ (handed session.settings session.world).groups,
    build ∈ buildsFor session.settings session.world.ci.failStarts group ∧
      ∃ change ∈ group.members, session.settings.knowsProject change.project = false ∧
        ∃ seen, SeenLog.load session.world.log.read = .ok seen ∧ change.Unseen seen

/-- A build that a round adds is started for a group that it hands over, and names refs that the log
covers after it. -/
theorem exists_group_of_mem_added {session : Session} {build : AddedBuild}
    (added : build ∈ session.added)
    (canonical : ∀ changes, session.snapshot? = some changes → ListsCanonically changes) :
    ∃ group ∈ (handed session.settings session.world).groups,
      build ∈ buildsFor session.settings session.world.ci.failStarts group ∧
        namedRefs build.refs = (considered session.settings group).members.map (·.ref) := by
  rw [added_eq] at added
  obtain ⟨group, isHanded, started⟩ := List.mem_flatMap.mp added
  refine ⟨group, isHanded, started, namedRefs_of_mem_buildsFor started ?_⟩
  obtain ⟨changes, read, found⟩ :=
    exists_snapshot?_of_mem_handed (Grouping.mem_memberLists_of_mem_groups isHanded)
  intro change member
  exact (canonical changes read).2 change (found change member).1

theorem covers_nextRound_of_mem_added {session : Session} {build : AddedBuild}
    (writes : session.WritesLog) (added : build ∈ session.added)
    (canonical : ∀ changes, session.snapshot? = some changes → ListsCanonically changes) :
    session.nextRound.after.log.Covers (namedRefs build.refs).toFinset := by
  obtain ⟨group, isHanded, -, named⟩ := exists_group_of_mem_added added canonical
  have covers :=
    covers_nextRound_of_mem_handed writes (Grouping.mem_memberLists_of_mem_groups isHanded)
  intro seen loaded ref isNamed
  apply covers seen loaded
  rw [named, List.mem_toFinset] at isNamed
  obtain ⟨change, member, rfl⟩ := List.mem_map.mp isNamed
  exact List.mem_toFinset.mpr (List.mem_map_of_mem (List.mem_filter.mp member).1)

end Session

/-- After a round that could write the log, a later one adds a build of the same refs only for a
group in which a member of a project that is not known is new. -/
theorem rebuilt_only_for_unknown (session : Session) (all : List (List Setup))
    (canonical : session.ReadsCanonically all) {first later : Nat} (follows : first < later)
    (present : later < all.length) (writes : (session.atRound all first).WritesLog)
    {build again : AddedBuild}
    (added : build ∈ (session.atRound all first).added)
    (keepsOpen : session.KeepsOpen all first build)
    (addedAgain : again ∈ (session.atRound all later).added) (same : again.refs = build.refs) :
    (session.atRound all later).BuildsForUnknown again := by
  have covers : (session.atRound all later).world.log.Covers (namedRefs build.refs).toFinset := by
    rw [Session.log_atRound]
    apply session.covers_rounds_of_covers all _ follows (Nat.le_of_lt present)
    · intro index after before
      exact keepsOpen index after (Nat.lt_trans before present)
    · exact Session.covers_nextRound_of_mem_added writes added
        (canonical first (Nat.lt_trans follows present))
  obtain ⟨group, isHanded, started, named⟩ :=
    Session.exists_group_of_mem_added addedAgain (canonical later present)
  obtain ⟨seen, changes, read, isFresh⟩ :=
    exists_snapshot_of_mem_handed (Grouping.mem_memberLists_of_mem_groups isHanded)
  obtain ⟨-, -, change, member, unseen⟩ := Grouping.of_mem_memberLists_fresh isFresh
  obtain ⟨-, loaded, -⟩ := of_reading_eq_snapshot read
  refine ⟨group, isHanded, started, change, member, ?_, seen, loaded, unseen⟩
  -- A new member in a known project would be named by the build, and so covered by the log.
  rw [← Bool.not_eq_true]
  intro known
  have isNamed : change.ref ∈ (namedRefs build.refs).toFinset := by
    rw [← same, named, List.mem_toFinset]
    exact List.mem_map_of_mem (List.mem_filter.mpr ⟨member, known⟩)
  exact unseen.not_covers (covers seen loaded change.ref isNamed)

/-! ## A part in another project moves -/

def corePart : Change where
  number := 501
  patchset := 1
  project := "core"
  owner := "a@example.org"
  message := "MultiPart: 1/2"

def atticPart (patchset : UInt64) : Change where
  number := 502
  patchset := patchset
  project := "attic"
  owner := "a@example.org"
  message := "MultiPart: 2/2"

/-- Settings in which only the project `core` is known. It has one test. -/
def coreOnly : Settings where
  ci := { host := "ci" }
  gate := { trustedDomains := ["example.org"], knownProjects := ["core"] }
  projects := Std.ExtTreeMap.empty.insert "core" { tests := ["unit"] }

def coreBuild : AddedBuild :=
  ⟨"presubmit-test", buildParams ["refs/changes/01/501/1"] ["core"] ["unit"]⟩

def twoPartSession : Session where
  settings := coreOnly
  world := { log := .file (SeenLog.render (Patchsets.put ∅ ⟨1, 1⟩)).toUTF8 }

/-- Two rounds, before the second of which the part in the project `attic` moves. -/
def atticMoves : List (List Setup) :=
  [[.changes [corePart, atticPart 1]], [.changes [corePart, atticPart 2]]]

theorem buildsFor_twoParts (patchset : UInt64) :
    buildsFor coreOnly false ⟨[corePart, atticPart patchset]⟩ = [coreBuild] := by
  have projectTests : coreOnly.projectTests ["core"] = ["unit"] := by decide
  have runNames : coreOnly.runNames "unit" = ["unit"] := by decide
  have tests : coreOnly.testsToRun ["core"] = ["unit"] := by
    rw [Settings.testsToRun, projectTests, List.flatMap_singleton, runNames,
      List.mergeSort_singleton]
  have known : considered coreOnly ⟨[corePart, atticPart patchset]⟩ = ⟨[corePart]⟩ := rfl
  have buildable : Buildable coreOnly ⟨[corePart]⟩ := by
    refine ⟨List.cons_ne_nil _ _, ?_, ?_, ?_⟩
    · intro change member
      rw [List.mem_singleton.mp member]
      decide
    · exact tests ▸ List.cons_ne_nil _ _
    · intro change member
      rw [List.mem_singleton.mp member]
      decide
  rw [buildsFor, verdictOn, known, verdict_eq_build buildable]
  change [(⟨"presubmit-test", paramsFor _ (coreOnly.testsToRun ["core"])⟩ : AddedBuild)] = _
  rw [tests]
  rfl

theorem ofChanges_twoParts {patchset : UInt64}
    (bundled : bundles [corePart, atticPart patchset] =
      [.set "" [⟨⟨1, 2⟩, corePart⟩, ⟨⟨2, 2⟩, atticPart patchset⟩]]) :
    Grouping.ofChanges [corePart, atticPart patchset] =
      ⟨[⟨[corePart, atticPart patchset]⟩], []⟩ := by
  simp [Grouping.ofChanges, bundled, Grouping.ofBundles, Bundle.toGroup, assemble_twoParts,
    Except.toOption]

/-- A round that finds the two parts, and the second of them new, builds the first. -/
theorem added_of_twoParts {session : Session} {seen : Patchsets} {patchset : UInt64}
    (settings : session.settings = coreOnly) (starts : session.world.ci.failStarts = false)
    (read : reading session.settings session.world =
      .snapshot seen [corePart, atticPart patchset])
    (bundled : bundles [corePart, atticPart patchset] =
      [.set "" [⟨⟨1, 2⟩, corePart⟩, ⟨⟨2, 2⟩, atticPart patchset⟩]])
    (recorded : seen ≠ ∅) (unseen : (atticPart patchset).Unseen seen) :
    session.added = [coreBuild] := by
  have enabled : session.settings.dispatchEnabled = true := by
    rw [settings]
    decide
  have fresh : Grouping.fresh seen ⟨[⟨[corePart, atticPart patchset]⟩], []⟩ =
      ⟨[⟨[corePart, atticPart patchset]⟩], []⟩ := by
    rw [Grouping.fresh_eq recorded]
    simp [unseen]
  rw [Session.added_eq, handed, read]
  simp only [enabled, if_true]
  rw [ofChanges_twoParts bundled, fresh, settings, starts]
  exact List.flatMap_singleton _ _ |>.trans (buildsFor_twoParts patchset)

theorem Session.atRound_one (session : Session) (first second : List Setup) :
    session.atRound [first, second] 1 =
      ((session.atRound [first, second] 0).step .run).2.setUpAll second := rfl

theorem Session.world_setUpAll_changes (session : Session) (changes : List Change) :
    (session.setUpAll [.changes changes]).world =
      { session.world with review := { session.world.review with changes } } := rfl

/-- Both rounds read the two parts, against the log left before. -/
theorem reading_atticMoves :
    let first := twoPartSession.atRound atticMoves 0
    let second := twoPartSession.atRound atticMoves 1
    reading first.settings first.world =
        .snapshot (Patchsets.put ∅ ⟨1, 1⟩) [corePart, atticPart 1] ∧
      reading second.settings second.world =
        .snapshot (SeenLog.record [corePart, atticPart 1]) [corePart, atticPart 2] ∧
      second.world.ci.failStarts = false ∧
      second.world.log = .file (recordBytes [corePart, atticPart 1]) := by
  intro first second
  have read : reading first.settings first.world =
      .snapshot (Patchsets.put ∅ ⟨1, 1⟩) [corePart, atticPart 1] :=
    reading_eq_snapshot (by decide) (SeenLog.load_render _) rfl
  have log : second.world.log = .file (recordBytes [corePart, atticPart 1]) := by
    rw [Session.log_atRound, twoPartSession.world_rounds_take_succ (by decide)]
    exact Session.log_nextRound_of_snapshot (Session.snapshot?_eq_some read) rfl
  obtain ⟨_, _, _, _, _, _, _, _, _, _, after⟩ :
      running.Within first.world first.nextRound.after := running_within_run _ _ _
  have setUp : second = (first.step .run).2.setUpAll [.changes [corePart, atticPart 2]] :=
    twoPartSession.atRound_one [.changes [corePart, atticPart 1]]
      [.changes [corePart, atticPart 2]]
  have world : second.world =
      { first.nextRound.after with
        review := { first.nextRound.after.review with changes := [corePart, atticPart 2] } } := by
    rw [← first.world_step_run, setUp]
    exact Session.world_setUpAll_changes _ _
  rw [after] at world
  have loaded : SeenLog.load second.world.log.read =
      .ok (SeenLog.record [corePart, atticPart 1]) := by
    rw [log, load_recordBytes]
  refine ⟨read, reading_eq_snapshot ?_ loaded ?_, ?_, log⟩
  · rw [world]
    exact fun red => Bool.false_ne_true red.2
  · rw [world]
    rfl
  · rw [world]
    rfl

theorem added_atticMoves :
    (twoPartSession.atRound atticMoves 0).added = [coreBuild] ∧
      (twoPartSession.atRound atticMoves 1).added = [coreBuild] := by
  obtain ⟨readFirst, readSecond, starts, -⟩ := reading_atticMoves
  have recorded : SeenLog.record [corePart, atticPart 1] ≠ ∅ := by decide
  constructor
  · exact added_of_twoParts rfl rfl readFirst (by decide) (Patchsets.put_ne_empty ∅ ⟨1, 1⟩)
      (by decide)
  · exact added_of_twoParts rfl starts readSecond (by decide) recorded (by decide)

theorem eq_zero_or_one_of_lt {index : Nat} (present : index < atticMoves.length) :
    index = 0 ∨ index = 1 := by
  change index < 2 at present
  omega

/-- Each of the two rounds reads the part in the project `core` next to a patchset of the other. -/
theorem exists_patchset_of_atticMoves {index : Nat} (present : index < atticMoves.length)
    {changes : List Change}
    (read : (twoPartSession.atRound atticMoves index).snapshot? = some changes) :
    ∃ patchset ∈ [1, 2], changes = [corePart, atticPart patchset] := by
  obtain ⟨readFirst, readSecond, -⟩ := reading_atticMoves
  rcases eq_zero_or_one_of_lt present with rfl | rfl
  · rw [Session.snapshot?_eq_some readFirst] at read
    exact ⟨1, by decide, (Option.some.inj read).symm⟩
  · rw [Session.snapshot?_eq_some readSecond] at read
    exact ⟨2, by decide, (Option.some.inj read).symm⟩

theorem readsCanonically_atticMoves : twoPartSession.ReadsCanonically atticMoves := by
  intro index present changes read
  obtain ⟨patchset, isOne, rfl⟩ := exists_patchset_of_atticMoves present read
  rcases List.mem_pair.mp isOne with rfl | rfl
  · decide
  · decide

theorem keepsOpen_atticMoves : twoPartSession.KeepsOpen atticMoves 0 coreBuild := by
  intro index after present changes read
  obtain ⟨patchset, -, rfl⟩ := exists_patchset_of_atticMoves present read
  have named : namedRefs coreBuild.refs = [⟨501, 1⟩] := by decide
  intro ref isNamed
  rw [named, List.mem_toFinset, List.mem_singleton] at isNamed
  rw [isNamed]
  exact ⟨corePart, List.mem_cons_self, rfl, by decide, UInt64.le_refl _⟩

/-- The log can be written and everything is listed canonically, and still the same refs are built
again. -/
theorem atticMoves_builds_again :
    twoPartSession.ReadsCanonically atticMoves ∧
      (∀ index, index < atticMoves.length → ∀ content,
        ((twoPartSession.atRound atticMoves index).world.log.replace content).1 = .ok ()) ∧
      ¬ twoPartSession.BuildsOnce atticMoves := by
  obtain ⟨addedFirst, addedSecond⟩ := added_atticMoves
  refine ⟨readsCanonically_atticMoves, ?_, ?_⟩
  · intro index present content
    obtain ⟨-, -, -, log⟩ := reading_atticMoves
    rcases eq_zero_or_one_of_lt present with rfl | rfl
    · rfl
    · rw [log]
      rfl
  · intro once
    exact once 0 1 (by decide) (by decide) coreBuild (addedFirst ▸ List.mem_singleton_self _)
      keepsOpen_atticMoves coreBuild (addedSecond ▸ List.mem_singleton_self _) rfl

/-- In the second round it is the part in the project `attic` that is new. -/
theorem rebuilt_only_for_unknown_of_atticMoves :
    (twoPartSession.atRound atticMoves 1).BuildsForUnknown coreBuild := by
  obtain ⟨addedFirst, addedSecond⟩ := added_atticMoves
  exact rebuilt_only_for_unknown twoPartSession atticMoves readsCanonically_atticMoves
    Nat.zero_lt_one (by decide) (fun _ _ => rfl) (addedFirst ▸ List.mem_singleton_self _)
    keepsOpen_atticMoves (addedSecond ▸ List.mem_singleton_self _) rfl

end ChangeGate.Memory
