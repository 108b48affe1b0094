import ChangeGate.Proofs.Service.Journal

/-!
# Services whose answers are noted

Services that note every call made to them together with its answer. The notes of a program say
all that it can know of the services, and the calls that they hold, made one after another, lead
from the state before the program to the state after it.
-/

namespace ChangeGate.Service

open ChangeGate.Ci ChangeGate.Review ChangeGate.Round

/-- What a call is answered with. -/
@[reducible] def Call.Answer : Call → Type
  | .query _ => Except Failure (List Change)
  | .post .. => Except Failure Unit
  | .submit _ => Except Failure Unit
  | .queued _ => Except Failure (List QueuedBuild)
  | .started _ => Except Failure (List StartedBuild)
  | .cancelQueued _ => Except Failure Unit
  | .stop .. => Except Failure Unit
  | .start .. => Except Failure Unit
  | .lastStatus _ => Except Failure BuildStatus
  | .read => Except FileError ByteArray
  | .replace _ => Except FileError Unit
  | .emit _ => Unit

/-- A call and its answer. -/
structure Note where
  call : Call
  answer : call.Answer

/-- The note of an event that is made known. -/
abbrev Note.tell (event : Event) : Note :=
  ⟨.emit event, ()⟩

/-- A computation that also notes its calls and their answers, in order. -/
abbrev NotesT (m : Type → Type) := WriterT (List Note) m

section
variable {m : Type → Type} [Monad m]

/-- Make a call and note its answer. -/
def noted (call : Call) (program : m call.Answer) : NotesT m call.Answer :=
  WriterT.mk ((fun answer => (answer, [⟨call, answer⟩])) <$> program)

/-- Make a call to the services. -/
def Services.perform (services : Services m) : (call : Call) → m call.Answer
  | .query text => services.review.query text
  | .post message references verified => services.review.post message references verified
  | .submit references => services.review.submit references
  | .queued job => services.ci.queued job
  | .started job => services.ci.started job
  | .cancelQueued id => services.ci.cancelQueued id
  | .stop job number => services.ci.stop job number
  | .start job params => services.ci.start job params
  | .lastStatus job => services.ci.lastStatus job
  | .read => services.log.read
  | .replace content => services.log.replace content
  | .emit event => services.emit event

/-- Make a call to the services and note its answer. -/
def Services.note (services : Services m) (call : Call) : NotesT m call.Answer :=
  noted call (services.perform call)

/-- The services with notes. -/
def Services.noted (services : Services m) : Services (NotesT m) where
  review :=
    { query := fun text => services.note (.query text)
      post := fun message references verified => services.note (.post message references verified)
      submit := fun references => services.note (.submit references) }
  ci :=
    { queued := fun job => services.note (.queued job)
      started := fun job => services.note (.started job)
      cancelQueued := fun id => services.note (.cancelQueued id)
      stop := fun job number => services.note (.stop job number)
      start := fun job params => services.note (.start job params)
      lastStatus := fun job => services.note (.lastStatus job)
      manualLink := services.ci.manualLink }
  log :=
    { path := services.log.path
      read := services.note .read
      replace := fun content => services.note (.replace content) }
  emit := fun event => services.note (.emit event)

variable [LawfulMonad m]

/-- Noting an answer does not change what a call does. -/
theorem forgetting_note (services : Services m) (call : Call) :
    forgetting.Related (services.note call) (services.perform call) := by
  change Prod.fst <$> (fun answer => (answer, [Note.mk call answer])) <$> services.perform call = _
  rw [Functor.map_map]
  exact id_map' (services.perform call)

/-- The services with notes are the services. -/
theorem forgetting_serves_noted (services : Services m) :
    forgetting.Serves services.noted services where
  query _ := forgetting_note services _
  post _ _ _ := forgetting_note services _
  submit _ := forgetting_note services _
  queued _ := forgetting_note services _
  started _ := forgetting_note services _
  cancelQueued _ := forgetting_note services _
  stop _ _ := forgetting_note services _
  start _ _ := forgetting_note services _
  lastStatus _ := forgetting_note services _
  manualLink _ _ := rfl
  logPath := rfl
  read := forgetting_note services _
  replace _ := forgetting_note services _
  emit _ := forgetting_note services _

end

/-! ## Following a program -/

/-- What a program did: its answer, its notes in order, and the state after it. -/
structure Followed (σ α : Type) where
  answer : α
  notes : List Note
  after : σ

section
variable {σ α β : Type}

/-- Run a program with notes on a state. -/
def follow (program : NotesT (StateM σ) α) (state : σ) : Followed σ α :=
  let ((answer, notes), after) := program.run.run state
  ⟨answer, notes, after⟩

@[simp] theorem follow_pure (answer : α) (state : σ) :
    follow (pure answer) state = ⟨answer, [], state⟩ := rfl

@[simp] theorem follow_bind (program : NotesT (StateM σ) α) (next : α → NotesT (StateM σ) β)
    (state : σ) :
    follow (program >>= next) state =
      let first := follow program state
      let later := follow (next first.answer) first.after
      ⟨later.answer, first.notes ++ later.notes, later.after⟩ := rfl

@[simp] theorem follow_note (services : Services (StateM σ)) (call : Call) (state : σ) :
    follow (services.note call) state =
      let performed := (services.perform call).run state
      ⟨performed.1, [⟨call, performed.1⟩], performed.2⟩ := rfl

/-- A program without notes runs as the one with notes is followed. -/
theorem run_eq_of_forgetting {withNotes : NotesT (StateM σ) α} {plain : StateM σ α}
    (related : forgetting.Related withNotes plain) (state : σ) :
    plain.run state = ((follow withNotes state).answer, (follow withNotes state).after) := by
  have same : Prod.fst <$> withNotes.run = plain := related
  rw [← same]
  rfl

/-! ## What notes tell -/

/-- Whatever the state, the notes and the answer of the program are as told. -/
structure Yields (program : NotesT (StateM σ) α) (told : List Note → α → Prop) : Prop where
  tells : ∀ state, told (follow program state).notes (follow program state).answer

namespace Yields

variable {told : List Note → α → Prop} {result : List Note → β → Prop}

theorem pure {answer : α} (holds : told [] answer) : Yields (σ := σ) (pure answer) told :=
  ⟨fun _ => holds⟩

theorem note (services : Services (StateM σ)) (call : Call) :
    Yields (services.note call) fun notes answer => notes = [⟨call, answer⟩] :=
  ⟨fun _ => rfl⟩

theorem bind {program : NotesT (StateM σ) α} {next : α → NotesT (StateM σ) β}
    (first : Yields program told)
    (later : ∀ notes answer, told notes answer →
      Yields (next answer) fun others last => result (notes ++ others) last) :
    Yields (program >>= next) result :=
  ⟨fun state => (later _ _ (first.tells state)).tells _⟩

/-- A call is noted before what follows it. -/
theorem call {services : Services (StateM σ)} (call : Call)
    {next : call.Answer → NotesT (StateM σ) β}
    (later : ∀ answer,
      Yields (next answer) fun others last => result (⟨call, answer⟩ :: others) last) :
    Yields (services.note call >>= next) result :=
  ⟨fun state => (later ((services.perform call).run state).1).tells
    ((services.perform call).run state).2⟩

theorem mono {program : NotesT (StateM σ) α} {looser : List Note → α → Prop}
    (yields : Yields program told) (implies : ∀ notes answer, told notes answer →
      looser notes answer) : Yields program looser :=
  ⟨fun state => implies _ _ (yields.tells state)⟩

end Yields

/-! ## Making the calls again -/

/-- The calls of some notes, made one after another, are answered as noted and lead from one state
to another. -/
inductive Replays (services : Services (StateM σ)) : σ → List Note → σ → Prop where
  | nil (state : σ) : Replays services state [] state
  | cons {before middle after : σ} {call : Call} {answer : call.Answer} {notes : List Note}
      (performs : (services.perform call).run before = (answer, middle))
      (replays : Replays services middle notes after) :
      Replays services before (⟨call, answer⟩ :: notes) after

namespace Replays

variable {services : Services (StateM σ)}

theorem append {before middle after : σ} {notes others : List Note}
    (replays : Replays services before notes middle)
    (replaysOthers : Replays services middle others after) :
    Replays services before (notes ++ others) after := by
  induction replays with
  | nil => exact replaysOthers
  | cons performs _ inductionHypothesis => exact .cons performs (inductionHypothesis replaysOthers)

/-- Programs that are the same and whose notes replay what they do. -/
def simulation (services : Services (StateM σ)) :
    Simulation (NotesT (StateM σ)) (NotesT (StateM σ)) where
  Related program other := program = other ∧
    ∀ state, Replays services state (follow program state).notes (follow program state).after
  related_pure _ := ⟨rfl, .nil⟩
  related_bind := by
    rintro α β program other next otherNext ⟨rfl, first⟩ later
    refine ⟨congrArg _ (funext fun answer => (later answer).1), ?_⟩
    intro state
    exact (first state).append ((later _).2 _)

theorem related_note (services : Services (StateM σ)) (call : Call) :
    (simulation services).Related (services.note call) (services.note call) :=
  ⟨rfl, fun _ => .cons rfl (.nil _)⟩

theorem serves_noted (services : Services (StateM σ)) :
    (simulation services).Serves services.noted services.noted where
  query _ := related_note services _
  post _ _ _ := related_note services _
  submit _ := related_note services _
  queued _ := related_note services _
  started _ := related_note services _
  cancelQueued _ := related_note services _
  stop _ _ := related_note services _
  start _ _ := related_note services _
  lastStatus _ := related_note services _
  manualLink _ _ := rfl
  logPath := rfl
  read := related_note services _
  replace _ := related_note services _
  emit _ := related_note services _

end Replays

/-- The notes of a round replay it. -/
theorem replays_run (services : Services (StateM σ)) (settings : Settings) (state : σ) :
    let done := follow (run settings services.noted) state
    Replays services state done.notes done.after :=
  (Simulation.run (Replays.serves_noted services) settings).2 state

/-- A round runs as it is followed. -/
theorem run_eq_follow (services : Services (StateM σ)) (settings : Settings) (state : σ) :
    (run settings services).run state =
      ((follow (run settings services.noted) state).answer,
        (follow (run settings services.noted) state).after) :=
  run_eq_of_forgetting (Simulation.run (forgetting_serves_noted services) settings) state

end

end ChangeGate.Service
