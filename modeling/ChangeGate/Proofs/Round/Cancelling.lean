import ChangeGate.Proofs.Round.Clearing

/-!
# Which builds clearing leaves

A server that is asked to cancel some builds drops every queued build with the identifier of one of
them and halts every started build with the number of one of them, unless it takes no cancellation
at all. Cancelling what is stale for one reason and then what is stale for another leaves what
cancelling for either reason would, so the order of two clearings does not matter.
-/

namespace ChangeGate.Round

open ChangeGate.Ci ChangeGate.Memory ChangeGate.Review ChangeGate.Service

/-- A build with these joined refs is to be cancelled for a group with these patchsets. -/
def toCancel (current : Patchsets) (refs : String) : Bool :=
  !refs.isEmpty && (isStale refs current).toOption = some true

/-! ## What the server keeps -/

/-- The identifiers of the stale builds in a queue. -/
def staleIds (stale : String → Bool) (queue : List QueuedBuild) : List UInt64 :=
  (queue.filter fun build => stale build.refs).map (·.id)

def staleNumbers (stale : String → Bool) (started : List StartedBuild) : List UInt64 :=
  (started.filter fun build => build.building && stale build.refs).map (·.number)

/-- The builds in a queue that have none of some identifiers. -/
def dropAll (ids : List UInt64) (queue : List QueuedBuild) : List QueuedBuild :=
  queue.filter fun build => build.id ∉ ids

/-- The started builds, with those halted that have one of some numbers. -/
def haltAll (numbers : List UInt64) (started : List StartedBuild) : List StartedBuild :=
  started.map fun build =>
    if build.number ∈ numbers then { build with building := false } else build

theorem dropAll_nil (queue : List QueuedBuild) : dropAll [] queue = queue :=
  List.filter_eq_self.mpr fun _ _ => rfl

theorem haltAll_nil (started : List StartedBuild) : haltAll [] started = started :=
  List.map_id started

/-- Cancelling one identifier after another drops every build that has one of them. -/
theorem foldl_cancelQueued (ids : List UInt64) (ci : CiState) :
    ids.foldl (fun ci id => (ci.cancelQueued id).2) ci =
      if ci.failCancels then ci
      else
        { ci with
          queued := dropAll ids ci.queued
          cancelledQueued := ci.cancelledQueued ++ ids } := by
  induction ids generalizing ci with
  | nil => simp [dropAll_nil]
  | cons first rest inductionHypothesis =>
      rw [List.foldl_cons, inductionHypothesis, CiState.cancelQueued]
      cases refuses : ci.failCancels with
      | true => simp only [if_true, refuses]
      | false =>
          have dropped : dropAll rest (ci.queued.filter (·.id ≠ first)) =
              dropAll (first :: rest) ci.queued := by
            simp [dropAll, List.filter_filter, Bool.and_comm]
          simp only [Bool.false_eq_true, if_false, dropped, List.append_assoc,
            List.singleton_append]

/-- Stopping one number after another halts every build that has one of them. -/
theorem foldl_stop (job : String) (numbers : List UInt64) (ci : CiState) :
    numbers.foldl (fun ci number => (ci.stop job number).2) ci =
      if ci.failCancels then ci
      else
        { ci with
          started := haltAll numbers ci.started
          stopped := ci.stopped ++ numbers.map (job, ·) } := by
  induction numbers generalizing ci with
  | nil => simp [haltAll_nil]
  | cons first rest inductionHypothesis =>
      rw [List.foldl_cons, inductionHypothesis, CiState.stop]
      cases refuses : ci.failCancels with
      | true => simp only [if_true, refuses]
      | false =>
          have halted : haltAll rest (ci.started.map (CiState.halt first)) =
              haltAll (first :: rest) ci.started := by
            rw [haltAll, haltAll, List.map_map]
            apply List.map_congr_left
            intro build _
            by_cases same : build.number = first
            · simp [CiState.halt, same]
            · simp [CiState.halt, same]
          simp only [Bool.false_eq_true, if_false, halted, List.map_cons, List.append_assoc,
            List.singleton_append]

/-- The queue without the builds that have the identifier of a stale one. -/
def queueWithout (stale : String → Bool) (queue : List QueuedBuild) : List QueuedBuild :=
  dropAll (staleIds stale queue) queue

/-- The started builds, with those halted that have the number of a stale one that runs. -/
def startedWithout (stale : String → Bool) (started : List StartedBuild) : List StartedBuild :=
  haltAll (staleNumbers stale started) started

/-- What clearing for a group with these patchsets makes of a build server: the stale builds are
taken out of the queue and those that run are stopped, unless it takes no cancellation. -/
def clearedCi (job : String) (current : Patchsets) (ci : CiState) : CiState :=
  if ci.failCancels then ci
  else
    { ci with
      queued := queueWithout (toCancel current) ci.queued
      started := startedWithout (toCancel current) ci.started
      cancelledQueued := ci.cancelledQueued ++ staleIds (toCancel current) ci.queued
      stopped := ci.stopped ++ (staleNumbers (toCancel current) ci.started).map (job, ·) }

@[simp] theorem failStarts_clearedCi (job : String) (current : Patchsets) (ci : CiState) :
    (clearedCi job current ci).failStarts = ci.failStarts := by
  rw [clearedCi]
  split <;> rfl

@[simp] theorem failCancels_clearedCi (job : String) (current : Patchsets) (ci : CiState) :
    (clearedCi job current ci).failCancels = ci.failCancels := by
  rw [clearedCi]
  split <;> rfl

/-! ## Clearing twice -/

theorem mem_staleIds (stale : String → Bool) {queue : List QueuedBuild} {id : UInt64} :
    id ∈ staleIds stale queue ↔ ∃ build ∈ queue, stale build.refs = true ∧ build.id = id := by
  simp only [staleIds, List.mem_map, List.mem_filter, and_assoc]

theorem mem_staleNumbers (stale : String → Bool) {started : List StartedBuild} {number : UInt64} :
    number ∈ staleNumbers stale started ↔
      ∃ build ∈ started, (build.building = true ∧ stale build.refs = true) ∧
        build.number = number := by
  simp only [staleNumbers, List.mem_map, List.mem_filter, Bool.and_eq_true, and_assoc]

section
variable (first second : String → Bool)

/-- Builds go by identifier, so what is stale for a second reason but gone for the first has taken
along every build of its identifier. -/
theorem mem_staleIds_queueWithout (queue : List QueuedBuild) (id : UInt64) :
    id ∈ staleIds second (queueWithout first queue) ↔
      id ∉ staleIds first queue ∧ id ∈ staleIds second queue := by
  simp only [mem_staleIds second, queueWithout, dropAll, List.mem_filter,
    decide_eq_true_eq]
  constructor
  · rintro ⟨build, ⟨listed, kept⟩, isStale, rfl⟩
    exact ⟨kept, build, listed, isStale, rfl⟩
  · rintro ⟨kept, build, listed, isStale, rfl⟩
    exact ⟨build, ⟨listed, kept⟩, isStale, rfl⟩

/-- What is left in the queue for one reason and then another is what is left for either. -/
theorem queueWithout_queueWithout (queue : List QueuedBuild) :
    queueWithout second (queueWithout first queue) =
      queueWithout (fun refs => first refs || second refs) queue := by
  have either (id : UInt64) : id ∈ staleIds (fun refs => first refs || second refs) queue ↔
      id ∈ staleIds first queue ∨ id ∈ staleIds second queue := by
    simp only [mem_staleIds, Bool.or_eq_true, or_and_right, and_or_left, exists_or]
  rw [queueWithout, dropAll, queueWithout, dropAll, List.filter_filter, queueWithout, dropAll]
  apply List.filter_congr
  intro build _
  rw [← dropAll, ← queueWithout]
  simp only [mem_staleIds_queueWithout, either]
  by_cases gone : build.id ∈ staleIds first queue
  · simp [gone]
  · simp [gone]

/-- After halting for one reason, another one halts only what still runs. -/
theorem mem_staleNumbers_startedWithout (started : List StartedBuild) (number : UInt64) :
    number ∈ staleNumbers second (startedWithout first started) ↔
      number ∉ staleNumbers first started ∧ number ∈ staleNumbers second started := by
  simp only [mem_staleNumbers second, startedWithout, haltAll, List.mem_map]
  constructor
  · rintro ⟨build, ⟨before, listed, rfl⟩, running, rfl⟩
    by_cases halted : before.number ∈ staleNumbers first started
    · rw [if_pos halted] at running
      cases running.1
    · rw [if_neg halted] at running ⊢
      exact ⟨halted, before, listed, running, rfl⟩
  · rintro ⟨kept, build, listed, running, rfl⟩
    exact ⟨build, ⟨build, listed, if_neg kept⟩, running, rfl⟩

/-- The started builds halted for one reason and then another are those halted for either. -/
theorem startedWithout_startedWithout (started : List StartedBuild) :
    startedWithout second (startedWithout first started) =
      startedWithout (fun refs => first refs || second refs) started := by
  have either (number : UInt64) :
      number ∈ staleNumbers (fun refs => first refs || second refs) started ↔
        number ∈ staleNumbers first started ∨ number ∈ staleNumbers second started := by
    simp only [mem_staleNumbers, Bool.or_eq_true, or_and_right, and_or_left, exists_or]
  rw [startedWithout, haltAll, startedWithout, haltAll, List.map_map, startedWithout, haltAll]
  apply List.map_congr_left
  intro build _
  rw [← haltAll, ← startedWithout]
  simp only [Function.comp, mem_staleNumbers_startedWithout, either]
  by_cases halted : build.number ∈ staleNumbers first started
  · simp [halted]
  · simp [halted]

end

theorem queueWithout_none (queue : List QueuedBuild) :
    queueWithout (fun _ => false) queue = queue := by
  have none : queue.filter (fun _ => false) = [] :=
    List.filter_eq_nil_iff.mpr fun _ _ => Bool.false_ne_true
  rw [queueWithout, staleIds, none, List.map_nil, dropAll_nil]

theorem startedWithout_none (started : List StartedBuild) :
    startedWithout (fun _ => false) started = started := by
  have none : started.filter (fun build => build.building && false) = [] :=
    List.filter_eq_nil_iff.mpr fun build _ => by simp
  rw [startedWithout, staleNumbers, none, List.map_nil, haltAll_nil]

end ChangeGate.Round
