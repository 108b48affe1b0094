import Std.Data.ExtTreeMap

/-!
# Builds

A build runs a job with parameters. The refs, projects and tests of a group travel as three
of them, each a single joined text.
-/

namespace ChangeGate.Ci

/-- Parameters of a build to start: each name has a list of values. -/
abbrev BuildParams := Std.ExtTreeMap String (List String)

/-- Parameters are the same if all names have the same values. -/
instance : DecidableEq BuildParams :=
  inferInstanceAs (DecidableEq (Std.ExtTreeMap String (List String)))

/-- Parameters of a build the server knows: each name has one value. -/
abbrev ParamValues := Std.ExtTreeMap String String

/-- The parameter that holds the refs under test, joined by colons. -/
def refsParam : String := "REFS"

/-- The parameter that holds the projects under test, joined by colons. -/
def projectsParam : String := "PROJECTS"

/-- The parameter that holds the tests to run, joined by spaces. -/
def testsParam : String := "TESTS"

/-- The joined refs among the parameters of a build; empty when there are none. -/
def joinedRefs (params : ParamValues) : String :=
  params[refsParam]?.getD ""

/-- A build that waits in the queue. -/
structure QueuedBuild where
  id : UInt64
  params : ParamValues
  deriving DecidableEq, Repr, Inhabited

/-- The joined refs a build was queued with. -/
def QueuedBuild.refs (build : QueuedBuild) : String :=
  joinedRefs build.params

/-- A build that was started. -/
structure StartedBuild where
  number : UInt64
  /-- The build still runs. -/
  building : Bool
  params : ParamValues
  deriving DecidableEq, Repr, Inhabited

/-- The joined refs a build was started with. -/
def StartedBuild.refs (build : StartedBuild) : String :=
  joinedRefs build.params

/-- How the last completed build of a job ended. -/
structure BuildStatus where
  number : UInt64 := 0
  result : Option String := none
  deriving DecidableEq, Repr, Inhabited

/-- The last completed build failed. -/
def BuildStatus.isFailure (status : BuildStatus) : Bool :=
  status.result = some "FAILURE"

/-- The parameters of a build that tests some refs of some projects. -/
def buildParams (refs projects tests : List String) : BuildParams :=
  .ofList
    [ (refsParam, [String.intercalate ":" refs]),
      (projectsParam, [String.intercalate ":" projects]),
      (testsParam, [String.intercalate " " tests]) ]

end ChangeGate.Ci
