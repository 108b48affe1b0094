import Std.Data.ExtTreeMap

/-!
# Settings

Everything a round needs to know: the two servers, the rules of the gate, and which tests
belong to which project. Each setting has a default, and the defaults alone are a value.
-/

namespace ChangeGate

/-- How to reach the review server. -/
structure ReviewSettings where
  host : String := ""
  /-- Selects the open changes to consider. -/
  query : String := "status:open"
  user : Option String := none
  password : Option String := none
  deriving DecidableEq, Repr, Inhabited

/-- How to reach the build server. Without a host no build is started. -/
structure CiSettings where
  host : String := ""
  /-- The job that runs the tests. -/
  job : String := "presubmit-test"
  user : Option String := none
  token : Option String := none
  deriving DecidableEq, Repr, Inhabited

/-- The rules of the gate. -/
structure GateSettings where
  /-- Where the refs seen by the last round are kept. -/
  logFile : String := "$\x7bHOME\x7d/tmp/presubmit_log"
  /-- Mail domains whose owners are trusted. -/
  trustedDomains : List String := []
  /-- Owners trusted one by one. -/
  emailWhitelist : List String := []
  /-- The projects to test; an empty list stands for every project. -/
  knownProjects : List String := []
  /-- How long a request may take, in seconds. -/
  requestTimeout : UInt64 := 30
  deriving DecidableEq, Repr, Inhabited

/-- The tests of a project. -/
structure ProjectSettings where
  tests : List String := []
  deriving DecidableEq, Repr, Inhabited

/-- How a test is split. With `parts = n` it runs as the `n + 1` shards 0 to n. -/
structure TestSettings where
  parts : Option UInt32 := none
  deriving DecidableEq, Repr, Inhabited

/-- All settings. -/
structure Settings where
  review : ReviewSettings := {}
  ci : CiSettings := {}
  gate : GateSettings := {}
  projects : Std.ExtTreeMap String ProjectSettings := ∅
  tests : Std.ExtTreeMap String TestSettings := ∅
  deriving DecidableEq, Repr, Inhabited

end ChangeGate
