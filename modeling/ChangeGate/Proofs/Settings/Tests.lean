import ChangeGate.Ci.Build
import ChangeGate.Proofs.Text.Numeral
import ChangeGate.Proofs.Text.Pieces
import ChangeGate.Proofs.Text.Utf8
import ChangeGate.Settings.Tests
import Mathlib.Data.List.Nodup

/-!
# The tests of a build

A build runs the tests configured for its projects, in the order of their bytes: a test without
parts under its own name, and every other one as its shards. A name is listed once, unless it is
both a test without parts and a shard of another test.
-/

namespace ChangeGate

open ChangeGate.Text

/-! ## Shard names -/

/-- A shard name tells the test and the part. -/
theorem shardName_inj {test other : String} {part place : UInt32}
    (same : shardName test part = shardName other place) : test = other ∧ part = place := by
  have written (test : String) (part : UInt32) : (shardName test part).toList =
      (test.toList ++ "-par".toList) ++ 't' :: (numeral part.toNat).toList := by
    rw [shardName, String.toList_append, String.toList_append, List.append_assoc,
      List.append_assoc]
    rfl
  have noDigit : ¬ 't'.isDigit = true := by decide
  have sameText := congrArg String.toList same
  rw [written, written] at sameText
  have ⟨sameFront, sameDigits⟩ :=
    eq_of_append_mark (notMem_numeral noDigit _) (notMem_numeral noDigit _) sameText
  have sameNumber : part.toNat = place.toNat := eq_of_numeral_eq (String.toList_inj.mp sameDigits)
  exact ⟨String.toList_inj.mp (List.append_cancel_right sameFront), UInt32.toNat_inj.mp sameNumber⟩

theorem mem_shardNames_iff {test name : String} {last : UInt32} :
    name ∈ shardNames test last ↔ ∃ part ≤ last, name = shardName test part := by
  rw [shardNames, List.mem_map]
  constructor
  · intro ⟨place, inRange, isName⟩
    have below : place ≤ last.toNat := Nat.le_of_lt_succ (List.mem_range.mp inRange)
    refine ⟨UInt32.ofNat place, ?_, isName.symm⟩
    rw [UInt32.le_iff_toNat_le, UInt32.toNat_ofNat_of_lt' (Nat.lt_of_le_of_lt below last.toNat_lt)]
    exact below
  · intro ⟨part, within, isName⟩
    refine ⟨part.toNat, List.mem_range.mpr (Nat.lt_succ_of_le ?_), ?_⟩
    · exact UInt32.le_iff_toNat_le.mp within
    · rw [UInt32.ofNat_toNat, isName]

theorem nodup_shardNames (test : String) (last : UInt32) : (shardNames test last).Nodup := by
  refine List.Nodup.map_on ?_ List.nodup_range
  intro place inRange other otherInRange same
  have sameWord := (shardName_inj same).2
  have bounded {number : Nat} (member : number ∈ List.range (last.toNat + 1)) :
      number < UInt32.size :=
    Nat.lt_of_le_of_lt (Nat.le_of_lt_succ (List.mem_range.mp member)) last.toNat_lt
  rw [← UInt32.toNat_ofNat_of_lt' (bounded inRange), sameWord,
    UInt32.toNat_ofNat_of_lt' (bounded otherInRange)]

/-! ## The tests of some projects -/

namespace Settings

variable {settings : Settings} {projects : List String} {test name : String}

/-- A test is configured for one of some projects. -/
def Configures (settings : Settings) (projects : List String) (test : String) : Prop :=
  ∃ project ∈ projects, ∃ entry, settings.projects[project]? = some entry ∧ test ∈ entry.tests

/-- The number of the last part of a test, if it has parts. -/
def lastPart? (settings : Settings) (test : String) : Option UInt32 :=
  (settings.tests[test]?).bind (·.parts)

/-- A configured test without parts, which is run under its own name. -/
structure RunsWhole (settings : Settings) (projects : List String) (name : String) : Prop where
  configured : settings.Configures projects name
  unsplit : settings.lastPart? name = none

/-- The name of one part of a configured test. The parts are counted from zero, and the last one
belongs to them. -/
inductive RunsAsShard (settings : Settings) (projects : List String) : String → Prop where
  | part {test : String} {last part : UInt32} (configured : settings.Configures projects test)
      (split : settings.lastPart? test = some last) (within : part ≤ last) :
      RunsAsShard settings projects (test ++ "-part" ++ numeral part.toNat)

theorem mem_projectTests_iff :
    test ∈ settings.projectTests projects ↔ settings.Configures projects test := by
  rw [projectTests, Std.ExtTreeSet.mem_toList, Std.ExtTreeSet.mem_ofList, List.contains_iff_mem,
    List.mem_flatMap]
  apply exists_congr
  intro project
  apply and_congr_right
  intro _
  cases settings.projects[project]? with
  | none => simp
  | some entry => simp

theorem nodup_projectTests (settings : Settings) (projects : List String) :
    (settings.projectTests projects).Nodup := by
  apply Std.ExtTreeSet.distinct_toList.imp
  intro test other differ same
  exact differ (same ▸ Std.ReflCmp.compare_self)

/-- Only which projects there are decides which tests are configured. -/
theorem projectTests_congr {others : List String}
    (same : ∀ project, project ∈ projects ↔ project ∈ others) :
    settings.projectTests projects = settings.projectTests others := by
  rw [projectTests, projectTests]
  apply congrArg
  apply Std.ExtTreeSet.ext_mem
  intro test
  simp only [Std.ExtTreeSet.mem_ofList, List.contains_iff_mem, List.mem_flatMap, same]

/-! ## The names they run under -/

/-- The configured tests without parts. -/
def wholeTests (settings : Settings) (projects : List String) : List String :=
  (settings.projectTests projects).filter fun test => (settings.lastPart? test).isNone

/-- The configured tests with parts. -/
def splitTests (settings : Settings) (projects : List String) : List String :=
  (settings.projectTests projects).filter fun test => (settings.lastPart? test).isSome

/-- The shards of the configured tests with parts. -/
def shardTests (settings : Settings) (projects : List String) : List String :=
  (settings.splitTests projects).flatMap settings.runNames

theorem runNames_of_unsplit (unsplit : settings.lastPart? test = none) :
    settings.runNames test = [test] := by
  rw [lastPart?] at unsplit
  rw [runNames, unsplit]

theorem runNames_of_split {last : UInt32} (split : settings.lastPart? test = some last) :
    settings.runNames test = shardNames test last := by
  rw [lastPart?] at split
  rw [runNames, split]

theorem mem_wholeTests_iff :
    name ∈ settings.wholeTests projects ↔ settings.RunsWhole projects name := by
  rw [wholeTests, List.mem_filter, mem_projectTests_iff, Option.isNone_iff_eq_none]
  constructor
  · intro ⟨configured, unsplit⟩
    exact ⟨configured, unsplit⟩
  · intro whole
    exact ⟨whole.configured, whole.unsplit⟩

theorem mem_splitTests_iff :
    test ∈ settings.splitTests projects ↔
      settings.Configures projects test ∧ ∃ last, settings.lastPart? test = some last := by
  rw [splitTests, List.mem_filter, mem_projectTests_iff, Option.isSome_iff_exists]

theorem mem_shardTests_iff :
    name ∈ settings.shardTests projects ↔ settings.RunsAsShard projects name := by
  rw [shardTests, List.mem_flatMap]
  constructor
  · intro ⟨test, member, isShard⟩
    have ⟨configured, last, split⟩ := mem_splitTests_iff.mp member
    rw [runNames_of_split split] at isShard
    have ⟨part, within, isName⟩ := mem_shardNames_iff.mp isShard
    rw [isName]
    exact .part configured split within
  · intro isShard
    cases isShard with
    | @part test last part configured split within =>
        refine ⟨test, mem_splitTests_iff.mpr ⟨configured, last, split⟩, ?_⟩
        rw [runNames_of_split split]
        exact mem_shardNames_iff.mpr ⟨part, within, rfl⟩

theorem nodup_wholeTests (settings : Settings) (projects : List String) :
    (settings.wholeTests projects).Nodup :=
  (nodup_projectTests settings projects).filter _

/-- Different tests have different shards, and the parts of one test have different names. -/
theorem nodup_shardTests (settings : Settings) (projects : List String) :
    (settings.shardTests projects).Nodup := by
  rw [shardTests, List.nodup_flatMap]
  constructor
  · intro test member
    have ⟨_, last, split⟩ := mem_splitTests_iff.mp member
    rw [runNames_of_split split]
    exact nodup_shardNames test last
  · have apart : (settings.splitTests projects).Nodup :=
      (nodup_projectTests settings projects).filter _
    apply apart.imp_of_mem
    intro test other member otherMember differ name isShard isOther
    have ⟨_, last, split⟩ := mem_splitTests_iff.mp member
    have ⟨_, otherLast, otherSplit⟩ := mem_splitTests_iff.mp otherMember
    rw [runNames_of_split split] at isShard
    rw [runNames_of_split otherSplit] at isOther
    have ⟨part, _, isName⟩ := mem_shardNames_iff.mp isShard
    have ⟨place, _, isOtherName⟩ := mem_shardNames_iff.mp isOther
    exact differ (shardName_inj (isName.symm.trans isOtherName)).1

/-- What is run are the tests without parts, and the shards of the others. -/
theorem perm_testsToRun (settings : Settings) (projects : List String) :
    (settings.testsToRun projects).Perm
      (settings.wholeTests projects ++ settings.shardTests projects) := by
  have alone : ∀ test ∈ settings.wholeTests projects, settings.runNames test = [test] := by
    intro test member
    exact runNames_of_unsplit (mem_wholeTests_iff.mp member).unsplit
  have parted := (List.filter_append_perm (fun test => (settings.lastPart? test).isNone)
    (settings.projectTests projects)).flatMap_right settings.runNames
  simp only [Option.not_isNone] at parted
  rw [List.flatMap_append, ← wholeTests, ← splitTests, ← shardTests, List.flatMap_congr alone,
    List.flatMap_singleton'] at parted
  exact (List.mergeSort_perm _ _).trans parted.symm

theorem mem_testsToRun_iff :
    name ∈ settings.testsToRun projects ↔
      settings.RunsWhole projects name ∨ settings.RunsAsShard projects name := by
  rw [(perm_testsToRun settings projects).mem_iff, List.mem_append, mem_wholeTests_iff,
    mem_shardTests_iff]

/-- The names are in the order of their bytes. -/
theorem testsToRun_pairwise (settings : Settings) (projects : List String) :
    (settings.testsToRun projects).Pairwise fun test other => utf8Bytes test ≤ utf8Bytes other := by
  have transitive (test other last : String) :
      decide (test ≤ other) = true → decide (other ≤ last) = true →
        decide (test ≤ last) = true := by
    simp only [decide_eq_true_eq]
    exact String.le_trans
  have total (test other : String) :
      (decide (test ≤ other) || decide (other ≤ test)) = true := by
    simp only [Bool.or_eq_true, decide_eq_true_eq]
    exact String.le_total test other
  apply (List.pairwise_mergeSort transitive total _).imp
  intro test other inOrder
  exact utf8Bytes_le (of_decide_eq_true inOrder)

/-- A space in a listed name is one in the name of a configured test. -/
theorem space_notMem_of_mem_testsToRun
    (noSpace : ∀ test, settings.Configures projects test → ' ' ∉ test.toList)
    (member : name ∈ settings.testsToRun projects) : ' ' ∉ name.toList := by
  rcases mem_testsToRun_iff.mp member with whole | isShard
  · exact noSpace name whole.configured
  · cases isShard with
    | @part test last part configured split within =>
        have notFixed : ' ' ∉ "-part".toList := by decide
        simp only [String.toList_append, List.mem_append, not_or]
        exact ⟨⟨noSpace test configured, notFixed⟩, notMem_numeral (by decide) _⟩

/-- What holds of the list of tests for some projects. -/
structure TestListLaws (settings : Settings) (projects : List String) : Prop where
  /-- The names are in the order of their bytes. -/
  sorted : (settings.testsToRun projects).Pairwise fun name other =>
    utf8Bytes name ≤ utf8Bytes other
  /-- They are the configured tests without parts, and the shards of those with parts. -/
  mem_iff : ∀ name, name ∈ settings.testsToRun projects ↔
    settings.RunsWhole projects name ∨ settings.RunsAsShard projects name
  /-- The order of the projects and how often each is named make no difference. -/
  same_projects : ∀ others, (∀ project, project ∈ projects ↔ project ∈ others) →
    settings.testsToRun projects = settings.testsToRun others
  /-- No two tests have a shard name in common, nor have two parts of one test. -/
  shards_apart : ∀ (test other : String) (part place : UInt32),
    test ++ "-part" ++ numeral part.toNat = other ++ "-part" ++ numeral place.toNat →
      test = other ∧ part = place
  /-- Between its spaces the parameter of a build holds the list again, if there are any names and
  no test is configured under a name with a space. -/
  split_back : settings.testsToRun projects ≠ [] →
    (∀ test, settings.Configures projects test → ' ' ∉ test.toList) →
      ∀ refs names, ∃ joined,
        (Ci.buildParams refs names (settings.testsToRun projects))[Ci.testsParam]? = some [joined] ∧
          joined.toList.splitOn ' ' = (settings.testsToRun projects).map (·.toList)

/-- A build runs exactly what is configured for its projects, and the build server is told so. -/
theorem testListLaws (settings : Settings) (projects : List String) :
    TestListLaws settings projects := by
  constructor
  case sorted => exact testsToRun_pairwise settings projects
  case mem_iff => exact fun _ => mem_testsToRun_iff
  case same_projects =>
    intro others same
    rw [testsToRun, testsToRun, projectTests_congr same]
  case shards_apart => exact fun _ _ _ _ => shardName_inj
  case split_back =>
    intro present noSpace refs names
    refine ⟨String.intercalate " " (settings.testsToRun projects), rfl, ?_⟩
    exact splitOn_toList_intercalate rfl present fun _ => space_notMem_of_mem_testsToRun noSpace

/-- Two projects share a test with eleven parts, one of them twice, and have one without parts. -/
theorem testListLaws_of_shared_test :
    let settings : Settings :=
      { projects := .ofList
          [("core", (⟨["vet", "unit", "unit"]⟩ : ProjectSettings)), ("tools", ⟨["unit"]⟩)]
        tests := .ofList [("unit", (⟨some 10⟩ : TestSettings))] }
    "unit-part10" ∈ settings.testsToRun ["core", "tools"] ∧
      settings.testsToRun ["core", "tools"] = settings.testsToRun ["tools", "core", "tools"] ∧
      ∃ joined, (Ci.buildParams [] [] (settings.testsToRun ["core", "tools"]))[Ci.testsParam]? =
          some [joined] ∧
        joined.toList.splitOn ' ' = (settings.testsToRun ["core", "tools"]).map (·.toList) := by
  intro settings
  have laws := testListLaws settings ["core", "tools"]
  have tests : settings.projectTests ["core", "tools"] = ["unit", "vet"] := by decide
  have configured : settings.Configures ["core", "tools"] "unit" := by
    rw [← mem_projectTests_iff, tests]
    decide
  have isShard : settings.RunsAsShard ["core", "tools"] "unit-part10" :=
    @RunsAsShard.part settings ["core", "tools"] "unit" 10 10 configured rfl (by decide)
  have member := (laws.mem_iff "unit-part10").mpr (.inr isShard)
  have noSpace : ∀ test, settings.Configures ["core", "tools"] test → ' ' ∉ test.toList := by
    have none : ∀ test ∈ ["unit", "vet"], ' ' ∉ test.toList := by decide
    intro test isConfigured
    rw [← mem_projectTests_iff, tests] at isConfigured
    exact none test isConfigured
  have sameProjects : ∀ project, project ∈ ["core", "tools"] ↔
      project ∈ ["tools", "core", "tools"] := by
    intro project
    simp only [List.mem_cons, List.not_mem_nil, or_false]
    tauto
  exact ⟨member, laws.same_projects _ sameProjects,
    laws.split_back (List.ne_nil_of_mem member) noSpace [] []⟩

/-! ## How often a name is listed -/

/-- A name is listed for a test without parts, and for a shard. -/
theorem count_testsToRun (settings : Settings) (projects : List String) (name : String) :
    (settings.testsToRun projects).count name =
      (settings.wholeTests projects).count name + (settings.shardTests projects).count name := by
  rw [(perm_testsToRun settings projects).count_eq, List.count_append]

/-- Only the name of a test without parts that a shard of another test has as well is listed more
than once, and it is listed twice. -/
theorem listed_once_unless_shared (settings : Settings) (projects : List String) (name : String) :
    (1 < (settings.testsToRun projects).count name ↔
        settings.RunsWhole projects name ∧ settings.RunsAsShard projects name) ∧
      (settings.testsToRun projects).count name ≤ 2 := by
  rw [count_testsToRun, (nodup_wholeTests settings projects).count,
    (nodup_shardTests settings projects).count, ← mem_wholeTests_iff, ← mem_shardTests_iff]
  by_cases whole : name ∈ settings.wholeTests projects <;>
    by_cases isShard : name ∈ settings.shardTests projects <;> simp [whole, isShard]

/-- A project with a test of one part, and with another test named as that part. -/
def namesakes : Settings where
  projects := .ofList [("core", (⟨["unit", "unit-part0"]⟩ : ProjectSettings))]
  tests := .ofList [("unit", (⟨some 0⟩ : TestSettings))]

/-- Both are run, under the same name. -/
theorem namesakes_listed_twice :
    namesakes.testsToRun ["core"] = ["unit-part0", "unit-part0"] ∧
      ¬ (namesakes.testsToRun ["core"]).Nodup := by
  have names : (namesakes.projectTests ["core"]).flatMap namesakes.runNames =
      ["unit-part0", "unit-part0"] := by decide
  have listed : namesakes.testsToRun ["core"] = ["unit-part0", "unit-part0"] := by
    rw [testsToRun, names]
    exact List.mergeSort_of_pairwise (by decide)
  rw [listed]
  exact ⟨rfl, by decide⟩

end Settings

end ChangeGate
