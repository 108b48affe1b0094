import ChangeGate.Memory.Review

/-!
# What the review server in memory records

Posts and submits go through the refs in order up to the first one that refuses. What is recorded
is the run of refs before it, and the answer names it.
-/

namespace ChangeGate.Memory.ReviewState

open ChangeGate.Review

/-- A query that is answered is answered with the listed changes. -/
theorem changes_of_query {state : ReviewState} {text : String} {changes : List Change}
    (answered : (state.query text).1 = .ok changes) : changes = state.changes := by
  simp only [query] at answered
  split at answered
  · cases answered
  · exact (Except.ok.inj answered).symm

/-- The first of some refs that refuses a post. -/
def postRefusedBy? (state : ReviewState) (references : List String) : Option String :=
  references.find? (state.failPostsTo.contains ·)

/-- The posts made before a ref refuses one. -/
def postsUpToRefusal (state : ReviewState) (message : String) (verified : Bool)
    (references : List String) : List Post :=
  (references.takeWhile fun reference => !state.failPostsTo.contains reference).map
    (⟨·, message, verified⟩)

/-- The answer to a post, told by the ref that refuses it. -/
def postAnswer : Option String → Except Failure Unit
  | none => .ok ()
  | some reference => .error (.review (.refused (.post reference)))

/-- A post is recorded on the refs before the first that refuses, and fails there. -/
theorem post_eq (message : String) (verified : Bool) (references : List String)
    (state : ReviewState) :
    state.post message verified references =
      (postAnswer (state.postRefusedBy? references),
        { state with
          posts := state.posts ++ state.postsUpToRefusal message verified references }) := by
  induction references generalizing state with
  | nil =>
      rw [post, postsUpToRefusal, List.takeWhile_nil, List.map_nil, List.append_nil]
      rfl
  | cons reference rest inductionHypothesis =>
      rw [post]
      by_cases refused : state.failPostsTo.contains reference = true
      · simp only [postRefusedBy?, postsUpToRefusal, List.find?_cons, List.takeWhile_cons,
          refused, if_true, Bool.not_true, Bool.false_eq_true, if_false, List.map_nil,
          List.append_nil, postAnswer]
      · rw [if_neg refused, inductionHypothesis]
        rw [Bool.not_eq_true] at refused
        simp only [postRefusedBy?, postsUpToRefusal, List.find?_cons, List.takeWhile_cons,
          refused, Bool.not_false, if_true, List.map_cons, List.append_assoc,
          List.singleton_append]

/-! ## Submitting -/

/-- None of some refs refuses to be submitted. -/
def Accepts (state : ReviewState) (references : List String) : Prop :=
  ∀ reference ∈ references, state.failSubmitsTo.contains reference = false

/-- None of some refs refuses, or there is a first one that does. -/
theorem accepts_or_refused (state : ReviewState) (references : List String) :
    state.Accepts references ∨ ∃ before reference after,
      references = before ++ reference :: after ∧ state.Accepts before ∧
        state.failSubmitsTo.contains reference = true := by
  cases found : references.find? (state.failSubmitsTo.contains ·) with
  | none =>
      left
      intro reference member
      simpa using List.find?_eq_none.mp found reference member
  | some reference =>
      right
      obtain ⟨refused, before, after, split, accepted⟩ := List.find?_eq_some_iff_append.mp found
      refine ⟨before, reference, after, split, ?_, refused⟩
      intro other member
      simpa using accepted other member

/-- Refs of which none refuses are submitted before those that follow. -/
theorem submit_append {references : List String} (state : ReviewState)
    (accepts : state.Accepts references) (rest : List String) :
    state.submit (references ++ rest) =
      ({ state with submits := state.submits ++ references } : ReviewState).submit rest := by
  induction references generalizing state with
  | nil => rw [List.nil_append, List.append_nil]
  | cons reference others inductionHypothesis =>
      obtain ⟨accepted, othersAccepted⟩ := List.forall_mem_cons.mp accepts
      rw [List.cons_append, submit, accepted, if_neg Bool.false_ne_true]
      rw [inductionHypothesis { state with submits := state.submits ++ [reference] } othersAccepted]
      simp only [List.append_assoc, List.singleton_append]

/-- Refs of which none refuses are all submitted, in order. -/
theorem submit_of_accepts {references : List String} (state : ReviewState)
    (accepts : state.Accepts references) :
    state.submit references = (.ok (), { state with submits := state.submits ++ references }) := by
  simpa [submit] using state.submit_append accepts []

/-- The first ref that refuses stops what follows, and the answer names it. -/
theorem submit_of_refused {before : List String} (state : ReviewState)
    (accepts : state.Accepts before) {reference : String}
    (refused : state.failSubmitsTo.contains reference = true) (after : List String) :
    state.submit (before ++ reference :: after) =
      (.error (.review (.refused (.submit reference))),
        { state with submits := state.submits ++ before }) := by
  rw [state.submit_append accepts, submit, if_pos refused]

/-- Submits fail only where a ref refuses to be submitted, and change nothing but the record of
submits. -/
theorem submit_cases (references : List String) (state : ReviewState) :
    (∃ submits, (state.submit references).2 = { state with submits := submits }) ∧
      ∀ failure, (state.submit references).1 = .error failure →
        ∃ reference ∈ references, state.failSubmitsTo.contains reference = true ∧
          failure = .review (.refused (.submit reference)) := by
  rcases state.accepts_or_refused references with
    accepts | ⟨before, reference, after, rfl, accepts, refused⟩
  · rw [state.submit_of_accepts accepts]
    refine ⟨⟨_, rfl⟩, ?_⟩
    intro failure answered
    cases answered
  · rw [state.submit_of_refused accepts refused]
    refine ⟨⟨_, rfl⟩, ?_⟩
    intro failure answered
    exact ⟨reference, List.mem_append_right _ List.mem_cons_self, refused,
      (Except.error.inj answered).symm⟩

end ChangeGate.Memory.ReviewState
