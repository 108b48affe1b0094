import ChangeGate.Proofs.Memory.Exchanges

/-!
# Kinds of requests

What a request asks to be done can be told from the last segment of its path, wherever the servers
are. No two kinds of requests end in the same segment.
-/

namespace ChangeGate.Url

/-- A segment is written as it is, and stands for no folder. -/
def Plain (segment : String) : Prop :=
  (∀ special, segmentText special segment = segment) ∧ segment ≠ "." ∧ segment ≠ ".."
  deriving Decidable

/-- A plain segment that is appended last ends the path. -/
theorem getLast?_path_append (url : Url) (segments : List String) {segment : String}
    (plain : Plain segment) : (url.append (segments ++ [segment])).path.getLast? = some segment := by
  obtain ⟨written, notDot, notDots⟩ := plain
  simp [append, List.foldl_append, pushSegment, written, notDot, notDots]

/-- Pairs leave the path as it is. -/
theorem path_addPairs (url : Url) (pairs : List (String × String)) :
    (url.addPairs pairs).path = url.path := rfl

/-- An address is written as some text. -/
theorem text_ne_empty (url : Url) : url.text ≠ "" := by
  intro empty
  have isEmpty := congrArg String.toList empty
  simp [text, resourceText] at isEmpty

end ChangeGate.Url

namespace ChangeGate.Memory

open ChangeGate.Ci ChangeGate.Http ChangeGate.Review ChangeGate.Url

/-- A request that something be done at a path with this last segment. -/
def isPostTo (segment : String) (request : Request) : Bool :=
  request.method = .post && request.url.path.getLast? = some segment

/-- A request to take a build out of the queue. -/
def isCancel : Request → Bool := isPostTo "cancelItem"

/-- A request to stop a build. -/
def isStop : Request → Bool := isPostTo "stop"

/-- A request to start a build. -/
def isStart : Request → Bool := isPostTo "buildWithParameters"

/-- A request to submit a patchset. -/
def isSubmit : Request → Bool := isPostTo "submit"

namespace Server

variable (server : Server) (segment : String)

theorem isPostTo_get (url : Url) : isPostTo segment (server.request .get url none) = false := rfl

theorem isPostTo_post {url : Url} {last : String} (ends : url.path.getLast? = some last)
    (content : Option Content) :
    isPostTo segment (server.request .post url content) = decide (last = segment) := by
  simp [isPostTo, request, ends]

@[simp] theorem isPostTo_query (text : String) : isPostTo segment (server.query text) = false :=
  server.isPostTo_get segment _

@[simp] theorem isPostTo_queue : isPostTo segment server.queue = false :=
  server.isPostTo_get segment _

@[simp] theorem isPostTo_builds (job : String) : isPostTo segment (server.builds job) = false :=
  server.isPostTo_get segment _

@[simp] theorem isPostTo_lastStatus (job : String) :
    isPostTo segment (server.lastStatus job) = false :=
  server.isPostTo_get segment _

@[simp] theorem isPostTo_review (message : String) (verified : Bool) (ref : ChangeRef) :
    isPostTo segment (server.review message verified ref) = decide ("review" = segment) :=
  server.isPostTo_post segment
    (getLast?_path_append server.address ["a", "changes", _, "revisions", _] (by decide +kernel)) _

@[simp] theorem isPostTo_submit (ref : ChangeRef) :
    isPostTo segment (server.submit ref) = decide ("submit" = segment) :=
  server.isPostTo_post segment
    (getLast?_path_append server.address ["a", "changes", _, "revisions", _] (by decide +kernel)) _

@[simp] theorem isPostTo_cancel (id : UInt64) :
    isPostTo segment (server.cancel id) = decide ("cancelItem" = segment) := by
  apply server.isPostTo_post
  rw [cancelUrl, path_addPairs]
  exact getLast?_path_append server.address ["queue"] (by decide +kernel)

@[simp] theorem isPostTo_stop (job : String) (number : UInt64) :
    isPostTo segment (server.stop job number) = decide ("stop" = segment) :=
  server.isPostTo_post segment
    (getLast?_path_append server.address ["job", job, _] (by decide +kernel)) _

@[simp] theorem isPostTo_start (job : String) (params : BuildParams) :
    isPostTo segment (server.start job params) = decide ("buildWithParameters" = segment) :=
  server.isPostTo_post segment
    (getLast?_path_append server.address ["job", job] (by decide +kernel)) _

end Server

end ChangeGate.Memory
