import ChangeGate.Round.Event

/-!
# The report of a round

What became of each group, and the counts that follow from it. A round that stopped early lists
no group.
-/

namespace ChangeGate.Round

/-- Why no build was started for a group. -/
inductive SkipReason where
  /-- No member belongs to a known project. -/
  | emptyGroup
  /-- A member asks for no tests. -/
  | optedOut
  /-- The projects have no tests. -/
  | noTests
  /-- The owner of a member is not trusted. -/
  | untrustedOwner
  deriving DecidableEq, Repr, Inhabited

/-- The wording of a skip reason. -/
def SkipReason.text : SkipReason → String
  | .emptyGroup => "empty_group"
  | .optedOut => "opted_out"
  | .noTests => "no_tests"
  | .untrustedOwner => "untrusted_owner"

/-- What became of a group. -/
inductive Outcome where
  | dispatched (tests : List String)
  | skipped (reason : SkipReason)
  | errored (attempt : Attempt) (failure : Failure)
  deriving DecidableEq, Repr, Inhabited

/-- An outcome in short. -/
def Outcome.state : Outcome → GroupState
  | .dispatched _ => .dispatched
  | .skipped _ => .skipped
  | .errored .. => .errored

/-- The wording of the failure of an attempt. -/
def attemptError (attempt : Attempt) (failure : Failure) : String :=
  attempt.text ++ ": " ++ failure.message

/-- What became of one group, told of the members that took part. -/
structure GroupReport where
  group : String
  changes : Nat
  outcome : Outcome
  deriving DecidableEq, Repr, Inhabited

/-- The report of a round. -/
structure Report where
  groups : List GroupReport := []
  /-- How many changes were submitted. -/
  submitted : Nat := 0
  /-- How many rejected sets were reported to the review server. -/
  reportedSets : Nat := 0
  /-- Why the round stopped early, if it did. -/
  stopped : Option StopReason := none
  deriving DecidableEq, Repr, Inhabited

namespace Report

/-- How many groups ended in a state. -/
def count (report : Report) (state : GroupState) : Nat :=
  report.groups.countP fun group => group.outcome.state = state

/-- How many changes are in groups whose build was started. -/
def sent (report : Report) : Nat :=
  (report.groups.filter fun group => group.outcome.state = .dispatched).foldr
    (fun group others => group.changes + others) 0

/-- How many groups were skipped. -/
def skipped (report : Report) : Nat :=
  report.count .skipped

/-- How many groups ended in an error. -/
def errored (report : Report) : Nat :=
  report.count .errored

/-- The event that ends a round. -/
def finishedEvent (report : Report) : Event :=
  .runFinished report.sent report.skipped report.errored report.submitted

end Report

end ChangeGate.Round
