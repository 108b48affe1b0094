import Std.Data.ExtTreeSet
import ChangeGate.Settings.Basic
import ChangeGate.Text.Numeral

/-!
# Tests of a build

The tests configured for the projects of a group, each once, with split tests written out as
their shards.
-/

namespace ChangeGate

open ChangeGate.Text

/-- The name of one shard of a test. -/
def shardName (test : String) (part : UInt32) : String :=
  test ++ "-part" ++ numeral part.toNat

/-- The shards 0 to `last` of a test. -/
def shardNames (test : String) (last : UInt32) : List String :=
  (List.range (last.toNat + 1)).map fun part => shardName test (UInt32.ofNat part)

namespace Settings

/-- The tests configured for some projects, each once and in order. -/
def projectTests (settings : Settings) (projects : List String) : List String :=
  (Std.ExtTreeSet.ofList
    (projects.flatMap fun project => ((settings.projects[project]?).map (·.tests)).getD [])).toList

/-- What a configured test runs as: its shards, or the test itself. -/
def runNames (settings : Settings) (test : String) : List String :=
  match (settings.tests[test]?).bind (·.parts) with
  | some last => shardNames test last
  | none => [test]

/-- The names to run for some projects, in order. -/
def testsToRun (settings : Settings) (projects : List String) : List String :=
  ((settings.projectTests projects).flatMap settings.runNames).mergeSort fun left right =>
    left ≤ right

end Settings

end ChangeGate
