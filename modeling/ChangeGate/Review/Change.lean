import ChangeGate.Review.Marker
import ChangeGate.Review.Ref

/-!
# Changes

An open change as the review server lists it. What the owner asks for is read off the
commit message whenever it is needed, so it can never disagree with the message.
-/

namespace ChangeGate.Review

/-- An open change at its current patchset. -/
structure Change where
  number : UInt64
  patchset : UInt64
  project : String := ""
  /-- The identifier under which the server files the change. -/
  changeId : String := ""
  /-- The owner's email address. -/
  owner : String := ""
  /-- The ref to fetch; empty when the server reported none. -/
  reference : String := (ChangeRef.mk number patchset).text
  /-- The topic that joins the parts of one set. -/
  topic : Option String := none
  message : String := ""
  /-- The server reports the patchset as ready to land. -/
  submittable : Bool := false
  deriving DecidableEq, Repr, Inhabited

namespace Change

/-- A topic from its text; the empty text is no topic. -/
def topicOfText (topic : String) : Option String :=
  if topic.isEmpty then none else some topic

/-- The patchset a change stands at. -/
def ref (change : Change) : ChangeRef :=
  ⟨change.number, change.patchset⟩

/-- The short form of a change for people. -/
def label (change : Change) : String :=
  change.ref.label

/-- A change whose patchset can be fetched. -/
def fetchable (change : Change) : Bool :=
  !change.reference.isEmpty

/-- Which part of a set a change declares to be. -/
def part? (change : Change) : Option PartMarker :=
  partMarker? change.message

/-- Whether tests run for a change. -/
def directive (change : Change) : Directive :=
  Review.directive change.message

/-- Whether the owner asks for the change to land. -/
def asksToLand (change : Change) : Bool :=
  Review.asksToLand change.message

/-- Asked to land, cleared to land, and with a ref to land. -/
def readyToLand (change : Change) : Bool :=
  change.asksToLand && change.submittable && change.fetchable

end Change

end ChangeGate.Review
