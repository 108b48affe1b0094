import ChangeGate.Failure
import ChangeGate.Json.Decode
import ChangeGate.Json.Reader
import ChangeGate.Review.Change
import ChangeGate.Text.Blank

/-!
# The listing of open changes

The review server answers a query with an array of change records. A guard stands before the
array, so that the answer is no script. Of each record the current revision says where the
change stands: its ref, and the commit message. When the ref is a change ref it decides number
and patchset; the numbers of the record count only otherwise.
-/

namespace ChangeGate.Review

open ChangeGate.Json ChangeGate.Text

/-- What a listing says about one revision of a change. -/
structure Revision where
  number : UInt64 := 0
  reference : String := ""
  /-- The refs to fetch, by the way to fetch them. -/
  fetch : Std.ExtTreeMap String String := ∅
  message : Option String := none
  deriving DecidableEq, Repr, Inhabited

/-- What a listing says about one change. -/
structure ListedChange where
  changeId : String := ""
  number : UInt64 := 0
  project : String := ""
  topic : Option String := none
  owner : String := ""
  currentRevision : Option String := none
  revisions : Std.ExtTreeMap String Revision := ∅
  submittable : Bool := false
  deriving DecidableEq, Repr, Inhabited

/-- A record with one text, which is empty when absent. -/
def textRecord? (name : String) (value : Value) : Option String := do
  let [text] ← fields [name] value | none
  orDefault "" text? text

/-- Read a revision. -/
def Revision.decode (value : Value) : Option Revision := do
  let [number, reference, fetch, commit] ← fields ["_number", "ref", "fetch", "commit"] value
    | none
  pure
    { number := ← orDefault 0 uint64? number
      reference := ← orDefault "" text? reference
      fetch := ← orDefault ∅ (map? (textRecord? "ref")) fetch
      message := ← orDefault none (nullable (textRecord? "message")) commit }

/-- Read a change. -/
def ListedChange.decode (value : Value) : Option ListedChange := do
  let [changeId, number, project, topic, owner, currentRevision, revisions, submittable] ←
    fields ["change_id", "_number", "project", "topic", "owner", "current_revision",
      "revisions", "submittable"] value
    | none
  pure
    { changeId := ← orDefault "" text? changeId
      number := ← orDefault 0 uint64? number
      project := ← orDefault "" text? project
      topic := ← orDefault none (nullable text?) topic
      owner := ← orDefault "" (textRecord? "email") owner
      currentRevision := ← orDefault none (nullable text?) currentRevision
      revisions := ← orDefault ∅ (map? Revision.decode) revisions
      submittable := ← orDefault false bool? submittable }

/-- The ref of a revision: its own, or else the one to fetch by `http`, or else the one of the
first other way to fetch it. -/
def Revision.fetchRef (revision : Revision) : String :=
  if revision.reference.isEmpty then
    (revision.fetch["http"]?.or (revision.fetch.toList.head?.map (·.2))).getD ""
  else
    revision.reference

namespace ListedChange

/-- The revision a change stands at, if it is listed. -/
def current? (listed : ListedChange) : Option Revision :=
  listed.currentRevision.bind fun name => listed.revisions[name]?

/-- The ref of a change; empty when its current revision is not listed. -/
def reference (listed : ListedChange) : String :=
  (listed.current?.map (·.fetchRef)).getD ""

/-- Where a change stands: where its ref says, or else where the record says. -/
def position (listed : ListedChange) : ChangeRef :=
  match ChangeRef.parse? listed.reference with
  | some ref => ref
  | none => ⟨listed.number, (listed.current?.map (·.number)).getD 0⟩

/-- The change that a record describes. -/
def toChange (listed : ListedChange) : Change where
  number := listed.position.number
  patchset := listed.position.patchset
  project := listed.project
  changeId := listed.changeId
  owner := listed.owner
  reference := listed.reference
  topic := listed.topic.bind Change.topicOfText
  message := (listed.current?.bind (·.message)).getD ""
  submittable := listed.submittable

end ListedChange

/-- What stands before the array of a listing. -/
def listingGuard : String := ")]\x7d'"

/-- The document in the answer to a query: white space before it and one guard are dropped. -/
def listingText (body : String) : String :=
  let text := trimStart body.toList
  String.ofList ((textAfter? listingGuard.toList text).getD text)

/-- The changes of a listing, in order. -/
def changesOfDocument (document : Value) : Option (List Change) :=
  (list? ListedChange.decode document).map fun listed => listed.map (·.toChange)

/-- A way to read the answer to a query. Where a record lists several ways to fetch a change, readers
may take different ones. -/
abbrev ListingReader := String → Except ClientError (List Change)

/-- Read the answer to a query. -/
def parseListing : ListingReader := fun body =>
  match (parse? (listingText body)).bind changesOfDocument with
  | some changes => .ok changes
  | none => .error (.badBody "not a listing of changes")

end ChangeGate.Review
