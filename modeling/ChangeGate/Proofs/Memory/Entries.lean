import ChangeGate.Memory.World
import ChangeGate.Proofs.Memory.Review
import ChangeGate.Proofs.Service.Notes
import Mathlib.Data.List.TakeWhile

/-!
# What is added to the records

The servers in memory and the events keep records, which only grow. Each call adds the entries
that its note tells, so the entries of a round are those of its notes, whatever is done in it.
-/

namespace ChangeGate.Memory

open ChangeGate.Ci ChangeGate.Review ChangeGate.Round ChangeGate.Service

/-- Entries that are added to the records of a world. -/
structure Entries where
  posts : List Post := []
  submits : List String := []
  added : List AddedBuild := []
  cancelledQueued : List UInt64 := []
  stopped : List (String × UInt64) := []
  events : List Event := []

/-- Some entries after others. -/
def Entries.append (first second : Entries) : Entries where
  posts := first.posts ++ second.posts
  submits := first.submits ++ second.submits
  added := first.added ++ second.added
  cancelledQueued := first.cancelledQueued ++ second.cancelledQueued
  stopped := first.stopped ++ second.stopped
  events := first.events ++ second.events

/-- The records of a world are those of an earlier one with some entries added. -/
structure Adds (before : World) (entries : Entries) (after : World) : Prop where
  posts : after.review.posts = before.review.posts ++ entries.posts
  submits : after.review.submits = before.review.submits ++ entries.submits
  added : after.ci.added = before.ci.added ++ entries.added
  cancelledQueued : after.ci.cancelledQueued = before.ci.cancelledQueued ++ entries.cancelledQueued
  stopped : after.ci.stopped = before.ci.stopped ++ entries.stopped
  events : after.events = before.events ++ entries.events

theorem Adds.append {first second third : World} {entries others : Entries}
    (adds : Adds first entries second) (addsLater : Adds second others third) :
    Adds first (entries.append others) third where
  posts := by rw [addsLater.posts, adds.posts, List.append_assoc, Entries.append]
  submits := by rw [addsLater.submits, adds.submits, List.append_assoc, Entries.append]
  added := by rw [addsLater.added, adds.added, List.append_assoc, Entries.append]
  cancelledQueued := by
    rw [addsLater.cancelledQueued, adds.cancelledQueued, List.append_assoc, Entries.append]
  stopped := by rw [addsLater.stopped, adds.stopped, List.append_assoc, Entries.append]
  events := by rw [addsLater.events, adds.events, List.append_assoc, Entries.append]

/-! ## The entries of notes -/

/-- The refs before one of them. -/
def refsBefore (reference : String) (references : List String) : List String :=
  if reference ∈ references then references.takeWhile (· ≠ reference) else []

/-- The refs that a call on several accepts: all of them, or those before the one refused. -/
def acceptedRefs (references : List String) : Except Failure Unit → List String
  | .ok () => references
  | .error (.review (.refused (.post reference))) => refsBefore reference references
  | .error (.review (.refused (.submit reference))) => refsBefore reference references
  | .error _ => []

/-- The entries that a call adds, told by its answer. -/
def entriesOfNote : Note → Entries
  | ⟨.post message references verified, answer⟩ =>
      { posts := (acceptedRefs references answer).map (⟨·, message, verified⟩) }
  | ⟨.submit references, answer⟩ => { submits := acceptedRefs references answer }
  | ⟨.start job params, .ok ()⟩ => { added := [⟨job, params⟩] }
  | ⟨.cancelQueued id, .ok ()⟩ => { cancelledQueued := [id] }
  | ⟨.stop job number, .ok ()⟩ => { stopped := [(job, number)] }
  | ⟨.emit event, ()⟩ => { events := [event] }
  | _ => {}

/-- The entries that some calls add in turn. -/
def entriesOf (notes : List Note) : Entries :=
  notes.foldr (fun note others => (entriesOfNote note).append others) {}

theorem entriesOf_append (notes others : List Note) :
    entriesOf (notes ++ others) = (entriesOf notes).append (entriesOf others) := by
  induction notes with
  | nil => rfl
  | cons note rest inductionHypothesis =>
      change (entriesOfNote note).append (entriesOf (rest ++ others)) = _
      rw [inductionHypothesis]
      simp only [entriesOf, Entries.append, List.foldr_cons, List.append_assoc]

theorem refsBefore_append {before : List String} {reference : String}
    (notBefore : reference ∉ before) (after : List String) :
    refsBefore reference (before ++ reference :: after) = before := by
  have differ : ∀ other ∈ before, decide (other ≠ reference) = true := by
    intro other member
    exact decide_eq_true fun same => notBefore (same ▸ member)
  rw [refsBefore, if_pos (List.mem_append_right _ List.mem_cons_self),
    List.takeWhile_append_of_pos differ, List.takeWhile_cons_of_neg (by simp), List.append_nil]

/-- A single ref that is refused is not accepted. -/
theorem acceptedRefs_singleton (reference : String) (failure : Failure) :
    acceptedRefs [reference] (.error failure) = [] := by
  have none (other : String) : refsBefore other [reference] = [] := by
    rw [refsBefore]
    split
    case isTrue member =>
      exact List.takeWhile_cons_of_neg (by simp [List.mem_singleton.mp member])
    case isFalse => rfl
  unfold acceptedRefs
  split
  · contradiction
  · exact none _
  · exact none _
  · rfl

/-- A message is posted on the refs that are accepted. -/
theorem ReviewState.postsUpToRefusal_eq (message : String) (verified : Bool)
    (references : List String) (state : ReviewState) :
    state.postsUpToRefusal message verified references =
      (acceptedRefs references (postAnswer (state.postRefusedBy? references))).map
        (⟨·, message, verified⟩) := by
  rw [postsUpToRefusal, postRefusedBy?]
  cases found : references.find? (state.failPostsTo.contains ·) with
  | none =>
      have accepted : ∀ reference ∈ references, (!state.failPostsTo.contains reference) = true := by
        intro reference member
        simpa using List.find?_eq_none.mp found reference member
      rw [List.takeWhile_eq_self_iff.mpr accepted]
      rfl
  | some reference =>
      obtain ⟨refused, before, after, rfl, accepted⟩ := List.find?_eq_some_iff_append.mp found
      have notBefore : reference ∉ before := fun member => by
        have accepts := accepted reference member
        rw [refused] at accepts
        cases accepts
      rw [postAnswer, acceptedRefs, refsBefore_append notBefore,
        List.takeWhile_append_of_pos accepted, List.takeWhile_cons_of_neg (by rw [refused]; decide),
        List.append_nil]

/-- The refs that are accepted are submitted. -/
theorem ReviewState.submits_submit (references : List String) (state : ReviewState) :
    (state.submit references).2 =
      { state with
        submits := state.submits ++ acceptedRefs references (state.submit references).1 } := by
  rcases state.accepts_or_refused references with
    accepts | ⟨before, reference, after, rfl, accepts, refused⟩
  · rw [state.submit_of_accepts accepts]
    rfl
  · have notBefore : reference ∉ before := fun member => by
      rw [accepts reference member] at refused
      cases refused
    rw [state.submit_of_refused accepts refused, acceptedRefs, refsBefore_append notBefore]

/-! ## The entries of programs -/

theorem adds_nothing {before after : World} (posts : after.review.posts = before.review.posts)
    (submits : after.review.submits = before.review.submits) (ci : after.ci = before.ci)
    (events : after.events = before.events) : Adds before {} after := by
  constructor <;> simp [posts, submits, ci, events]

/-- A call adds its entries. -/
theorem adds_of_performs {path : String} {call : Call} {answer : call.Answer}
    {before after : World} (performs : ((services path).perform call).run before = (answer, after)) :
    Adds before (entriesOfNote ⟨call, answer⟩) after := by
  obtain ⟨rfl, rfl⟩ := Prod.mk.inj performs
  cases call with
  | post message references verified =>
      change Adds before
        { posts := (acceptedRefs references (before.review.post message verified references).1).map
            (⟨·, message, verified⟩) }
        { before with review := (before.review.post message verified references).2 }
      rw [ReviewState.post_eq, ← ReviewState.postsUpToRefusal_eq]
      constructor <;> simp
  | submit references =>
      change Adds before
        { submits := acceptedRefs references (before.review.submit references).1 }
        { before with review := (before.review.submit references).2 }
      rw [ReviewState.submits_submit]
      constructor <;> simp
  | cancelQueued id =>
      change Adds before (entriesOfNote ⟨.cancelQueued id, (before.ci.cancelQueued id).1⟩)
        { before with ci := (before.ci.cancelQueued id).2 }
      rw [CiState.cancelQueued]
      split
      · exact adds_nothing rfl rfl rfl rfl
      · constructor <;> simp [entriesOfNote]
  | stop job number =>
      change Adds before (entriesOfNote ⟨.stop job number, (before.ci.stop job number).1⟩)
        { before with ci := (before.ci.stop job number).2 }
      rw [CiState.stop]
      split
      · exact adds_nothing rfl rfl rfl rfl
      · constructor <;> simp [entriesOfNote]
  | start job params =>
      change Adds before (entriesOfNote ⟨.start job params, (before.ci.start job params).1⟩)
        { before with ci := (before.ci.start job params).2 }
      rw [CiState.start]
      split
      · exact adds_nothing rfl rfl rfl rfl
      · constructor <;> simp [entriesOfNote]
  | emit event =>
      change Adds before { events := [event] } { before with events := before.events ++ [event] }
      constructor <;> simp
  | _ => exact adds_nothing rfl rfl rfl rfl

/-- Notes that replay what was done tell the entries that it added. -/
theorem adds_of_replays {path : String} {before after : World} {notes : List Note}
    (replays : Replays (services path) before notes after) :
    Adds before (entriesOf notes) after := by
  induction replays with
  | nil => exact adds_nothing rfl rfl rfl rfl
  | cons performs _ inductionHypothesis =>
      exact (adds_of_performs performs).append inductionHypothesis

/-- Neither call changes what the review server lists. -/
theorem changes_of_performs {path : String} {call : Call} {answer : call.Answer}
    {before after : World} (performs : ((services path).perform call).run before = (answer, after)) :
    after.review.changes = before.review.changes := by
  obtain ⟨rfl, rfl⟩ := Prod.mk.inj performs
  cases call with
  | post message references verified =>
      change (before.review.post message verified references).2.changes = _
      rw [ReviewState.post_eq]
  | submit references =>
      change (before.review.submit references).2.changes = _
      rw [ReviewState.submits_submit]
  | _ => rfl

/-- A query is answered with what the review server listed from the start. -/
theorem changes_of_replays {path : String} {before after : World} {notes : List Note}
    (replays : Replays (services path) before notes after) {text : String} {changes : List Change}
    (answered : ⟨.query text, .ok changes⟩ ∈ notes) : changes = before.review.changes := by
  induction replays with
  | nil => exact absurd answered List.not_mem_nil
  | @cons before middle after call answer notes performs replays inductionHypothesis =>
      rcases List.mem_cons.mp answered with isFirst | isLater
      · cases isFirst
        exact ReviewState.changes_of_query (congrArg Prod.fst performs)
      · rw [inductionHypothesis isLater, changes_of_performs performs]

end ChangeGate.Memory
