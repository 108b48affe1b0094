import ChangeGate.Ci.Build
import ChangeGate.Review.Grouping
import ChangeGate.Settings.Tests
import ChangeGate.Settings.Trust

/-!
# The verdict on a group

Whether a group is tested is decided by its members in known projects alone, before any server
is asked. The rules stand in order: a group without members is passed over, a member that asks
for no tests speaks for the group, a group without tests has nothing to run, and a member of an
owner who is not trusted needs a person to start the build.
-/

namespace ChangeGate.Round

open ChangeGate.Ci ChangeGate.Review

/-- What is to be done with a group. -/
inductive Verdict where
  | empty
  | optedOut
  | noTests
  /-- A person is asked to start the build with these parameters. -/
  | askPerson (params : BuildParams)
  /-- The build is started with these parameters, to run these tests. -/
  | build (params : BuildParams) (tests : List String)
  deriving DecidableEq, Repr

/-- The members of a group that belong to known projects. -/
def considered (settings : Settings) (group : Group) : Group :=
  ⟨group.members.filter fun change => settings.knowsProject change.project⟩

/-- Some member asks for no tests. -/
def hasOptedOut (group : Group) : Bool :=
  group.members.any fun change => change.directive = .skip

/-- The owner of some member is not trusted. -/
def hasUntrustedOwner (settings : Settings) (group : Group) : Bool :=
  group.members.any fun change => !settings.trusts change.owner

/-- The parameters of a build that runs some tests for a group. -/
def paramsFor (group : Group) (tests : List String) : BuildParams :=
  buildParams group.references group.projects tests

/-- The verdict on a group of members in known projects. -/
def verdict (settings : Settings) (group : Group) : Verdict :=
  if group.members.isEmpty then .empty
  else if hasOptedOut group then .optedOut
  else
    match settings.testsToRun group.projects with
    | [] => .noTests
    | tests =>
        if hasUntrustedOwner settings group then .askPerson (paramsFor group tests)
        else .build (paramsFor group tests) tests

end ChangeGate.Round
