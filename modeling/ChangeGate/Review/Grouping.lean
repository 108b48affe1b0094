import ChangeGate.Review.Change
import ChangeGate.Review.Patchsets

/-!
# Grouping changes

Changes are tested in groups. A change that declares no part is a group of its own; the
parts declared under one topic form a set, which is a group when it is complete and is
rejected with a diagnosis otherwise. Groups and rejected sets stand in the order in which
their first members are listed.
-/

namespace ChangeGate.Review

open ChangeGate.Text

/-- Changes that are tested as one unit, in order. -/
structure Group where
  members : List Change
  deriving DecidableEq, Repr, Inhabited

namespace Group

/-- The refs of the members, in order. -/
def references (group : Group) : List String :=
  group.members.map (·.reference)

/-- The projects of the members, in order. -/
def projects (group : Group) : List String :=
  group.members.map (·.project)

/-- The patchset of each member. -/
def patchsets (group : Group) : Patchsets :=
  Patchsets.ofRefs (group.members.map (·.ref))

/-- The labels of the members, for reports. -/
def label (group : Group) : String :=
  String.intercalate ", " (group.members.map (·.label))

end Group

/-- What is wrong with a set of parts. -/
inductive Issue where
  /-- The set does not have as many members as they declare. -/
  | incomplete (topic : String) (total : UInt32) (found : Nat)
  /-- A member declares another total than the first one. -/
  | totalMismatch (reference : String) (expected found : UInt32)
  /-- A member does not declare the index of its place. -/
  | indexMismatch (reference : String) (expected found : UInt32)
  deriving DecidableEq, Repr, Inhabited

/-- The wording of an issue. -/
def Issue.message : Issue → String
  | .incomplete topic total found =>
      "topic " ++ quoted topic ++ " has " ++ numeral found ++ " of " ++ numeral total.toNat
        ++ " parts"
  | .totalMismatch reference expected found =>
      reference ++ " declares " ++ numeral found.toNat ++ " parts, expected "
        ++ numeral expected.toNat
  | .indexMismatch reference expected found =>
      reference ++ " has part index " ++ numeral found.toNat ++ ", expected "
        ++ numeral expected.toNat

/-- A set of parts that cannot be tested. -/
structure RejectedSet where
  /-- The member the issue is reported on. -/
  change : Change
  /-- All members, by index. -/
  members : List Change
  issue : Issue
  deriving DecidableEq, Repr, Inhabited

/-- The wording of a rejection. -/
def RejectedSet.message (rejected : RejectedSet) : String :=
  "multi-part CL " ++ rejected.change.reference ++ ": " ++ rejected.issue.message

/-- Groups to test and sets that cannot be tested. -/
structure Grouping where
  groups : List Group
  rejected : List RejectedSet
  deriving DecidableEq, Repr, Inhabited

/-! ## Sets of parts -/

/-- A change together with the part it declares. -/
structure Part where
  marker : PartMarker
  change : Change
  deriving DecidableEq, Repr, Inhabited

/-- The parts of a set by rising index; equal indices keep their order. -/
def sortParts (parts : List Part) : List Part :=
  parts.mergeSort fun left right => left.marker.index ≤ right.marker.index

/-- The first of some parts whose index is not its place, counted from `place`. -/
def misplaced? (place : Nat) : List Part → Option (Nat × Part)
  | [] => none
  | part :: rest =>
      if part.marker.index.toNat = place then misplaced? (place + 1) rest else some (place, part)

/-- What is wrong with a set that starts with `first`, and on which member. Totals are
compared first, then the number of parts, then the places. -/
def diagnose? (topic : String) (first : Part) (parts : List Part) : Option (Change × Issue) :=
  let total := first.marker.total
  match parts.find? (·.marker.total ≠ total) with
  | some part => some (part.change, .totalMismatch part.change.reference total part.marker.total)
  | none =>
      if parts.length ≠ total.toNat then
        some (first.change, .incomplete topic total parts.length)
      else
        (misplaced? 1 parts).map fun (place, part) =>
          (part.change,
            .indexMismatch part.change.reference (UInt32.ofNat place) part.marker.index)

/-- The group of a complete set of parts, or the reason why there is none. -/
def assemble (topic : String) (parts : List Part) : Except RejectedSet Group :=
  let sorted := sortParts parts
  let members := sorted.map (·.change)
  match sorted.head?.bind (diagnose? topic · sorted) with
  | some (change, issue) => .error ⟨change, members, issue⟩
  | none => .ok ⟨members⟩

/-! ## Bundles -/

/-- Changes that belong together, before it is known whether they can be tested. -/
inductive Bundle where
  | alone (change : Change)
  | set (topic : String) (parts : List Part)
  deriving DecidableEq, Repr, Inhabited

namespace Bundle

/-- The changes of a bundle, in the order in which they were listed. -/
def changes : Bundle → List Change
  | .alone change => [change]
  | .set _ parts => parts.map (·.change)

/-- The group of a bundle, or the reason why there is none. -/
def toGroup : Bundle → Except RejectedSet Group
  | .alone change => .ok ⟨[change]⟩
  | .set topic parts => assemble topic parts

/-- Add a part to the set of its topic, which starts after the other bundles when there is
none yet. -/
def addPart (topic : String) (part : Part) : List Bundle → List Bundle
  | [] => [.set topic [part]]
  | .alone change :: rest => .alone change :: addPart topic part rest
  | .set other parts :: rest =>
      if other = topic then .set other (parts ++ [part]) :: rest
      else .set other parts :: addPart topic part rest

/-- Add a change to the bundles of the changes listed before it. -/
def add (bundles : List Bundle) (change : Change) : List Bundle :=
  match change.part? with
  | none => bundles ++ [.alone change]
  | some marker => addPart (change.topic.getD "") ⟨marker, change⟩ bundles

end Bundle

/-- The bundles of a list of changes. Changes that cannot be fetched are left out. -/
def bundles (changes : List Change) : List Bundle :=
  (changes.filter (·.fetchable)).foldl Bundle.add []

namespace Grouping

/-- The grouping of some bundles, in order. -/
def ofBundles (bundles : List Bundle) : Grouping where
  groups := bundles.filterMap fun bundle => bundle.toGroup.toOption
  rejected := bundles.filterMap fun bundle =>
    match bundle.toGroup with
    | .error rejected => some rejected
    | .ok _ => none

/-- The grouping of a list of changes. -/
def ofChanges (changes : List Change) : Grouping :=
  ofBundles (bundles changes)

/-- Neither a group nor a rejected set. -/
def isEmpty (grouping : Grouping) : Bool :=
  grouping.groups.isEmpty && grouping.rejected.isEmpty

end Grouping

end ChangeGate.Review
