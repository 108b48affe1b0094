import ChangeGate.Memory.World
import ChangeGate.Proofs.Service.Journal

/-!
# Programs observed on a world in memory

What a program over the services of a world answers, which calls it makes, and which world it
leaves behind. Sequencing and every single call have an equation here, and later proofs use
nothing else about how a program runs. A discipline bounds what a program may do to a world, and
a program made of disciplined parts is disciplined.
-/

namespace ChangeGate.Memory

open ChangeGate.Ci ChangeGate.Review ChangeGate.Round ChangeGate.Service

/-- What a program did: its answer, its calls in order, and the world after it. -/
structure Observation (α : Type) where
  answer : α
  calls : List Call
  after : World

/-- Run a program with a journal on a world. -/
def observe {α : Type} (program : JournalT WorldM α) (world : World) : Observation α :=
  let ((answer, calls), after) := program.run.run world
  ⟨answer, calls, after⟩

variable {α β : Type}

@[simp] theorem observe_pure (answer : α) (world : World) :
    observe (pure answer) world = ⟨answer, [], world⟩ := rfl

@[simp] theorem observe_bind (program : JournalT WorldM α) (next : α → JournalT WorldM β)
    (world : World) :
    observe (program >>= next) world =
      ⟨(observe (next (observe program world).answer) (observe program world).after).answer,
        (observe program world).calls ++
          (observe (next (observe program world).answer) (observe program world).after).calls,
        (observe (next (observe program world).answer) (observe program world).after).after⟩ :=
  rfl

/-- A program without a journal runs as the one with a journal is observed. -/
theorem run_eq_of_erasure {journaled : JournalT WorldM α} {plain : WorldM α}
    (related : erasure.Related journaled plain) (world : World) :
    plain.run world = ((observe journaled world).answer, (observe journaled world).after) := by
  have same : Prod.fst <$> journaled.run = plain := related
  rw [← same]
  rfl

/-! ## Single calls -/

/-- The services of a world, with a journal. -/
def observed (path : String) : Services (JournalT WorldM) :=
  (services path).journaled

theorem erasure_serves_observed (path : String) :
    erasure.Serves (observed path) (services path) :=
  erasure_serves_journaled (services path)

variable (path : String) (world : World)

@[simp] theorem observe_query (text : String) :
    observe ((observed path).review.query text) world =
      ⟨(world.review.query text).1, [.query text],
        { world with review := (world.review.query text).2 }⟩ := rfl

@[simp] theorem observe_post (message : String) (references : List String) (verified : Bool) :
    observe ((observed path).review.post message references verified) world =
      ⟨(world.review.post message verified references).1, [.post message references verified],
        { world with review := (world.review.post message verified references).2 }⟩ := rfl

@[simp] theorem observe_submit (references : List String) :
    observe ((observed path).review.submit references) world =
      ⟨(world.review.submit references).1, [.submit references],
        { world with review := (world.review.submit references).2 }⟩ := rfl

@[simp] theorem observe_queued (job : String) :
    observe ((observed path).ci.queued job) world =
      ⟨.ok world.ci.queued, [.queued job], world⟩ := rfl

@[simp] theorem observe_started (job : String) :
    observe ((observed path).ci.started job) world =
      ⟨.ok world.ci.started, [.started job], world⟩ := rfl

@[simp] theorem observe_cancelQueued (id : UInt64) :
    observe ((observed path).ci.cancelQueued id) world =
      ⟨(world.ci.cancelQueued id).1, [.cancelQueued id],
        { world with ci := (world.ci.cancelQueued id).2 }⟩ := rfl

@[simp] theorem observe_stop (job : String) (number : UInt64) :
    observe ((observed path).ci.stop job number) world =
      ⟨(world.ci.stop job number).1, [.stop job number],
        { world with ci := (world.ci.stop job number).2 }⟩ := rfl

@[simp] theorem observe_start (job : String) (params : BuildParams) :
    observe ((observed path).ci.start job params) world =
      ⟨(world.ci.start job params).1, [.start job params],
        { world with ci := (world.ci.start job params).2 }⟩ := rfl

@[simp] theorem observe_lastStatus (job : String) :
    observe ((observed path).ci.lastStatus job) world =
      ⟨world.ci.status job, [.lastStatus job], world⟩ := rfl

@[simp] theorem observe_read :
    observe (observed path).log.read world = ⟨world.log.read, [.read], world⟩ := rfl

@[simp] theorem observe_replace (content : ByteArray) :
    observe ((observed path).log.replace content) world =
      ⟨(world.log.replace content).1, [.replace content],
        { world with log := (world.log.replace content).2 }⟩ := rfl

@[simp] theorem observe_emit (event : Event) :
    observe ((observed path).emit event) world =
      ⟨(), [.emit event], { world with events := world.events ++ [event] }⟩ := rfl

@[simp] theorem manualLink_observed (job : String) (params : BuildParams) :
    (observed path).ci.manualLink job params = manualLink job params := rfl

@[simp] theorem logPath_observed : (observed path).log.path = path := rfl

/-! ## Disciplines -/

/-- A bound on what a program may do: how far a world may change, and which calls may be made.
Changing nothing is within the bound, and so is one change after another. -/
structure Discipline where
  Within : World → World → Prop
  Allows : Call → Prop
  refl : ∀ world, Within world world
  trans : ∀ {first second third}, Within first second → Within second third → Within first third

namespace Discipline

variable {discipline : Discipline}

/-- The program keeps within the bound on every world. -/
def Governs (discipline : Discipline) (program : JournalT WorldM α) : Prop :=
  ∀ world, discipline.Within world (observe program world).after ∧
    ∀ call ∈ (observe program world).calls, discipline.Allows call

theorem governs_pure (answer : α) : discipline.Governs (pure answer) := by
  intro world
  exact ⟨discipline.refl world, fun call member => absurd member List.not_mem_nil⟩

/-- A single call keeps within the bound when it may be made and changes the world no further. -/
theorem governs_call {program : JournalT WorldM α} {call : Call} (allowed : discipline.Allows call)
    (single : ∀ world, (observe program world).calls = [call])
    (within : ∀ world, discipline.Within world (observe program world).after) :
    discipline.Governs program := by
  intro world
  refine ⟨within world, ?_⟩
  intro other member
  rw [single, List.mem_singleton] at member
  rw [member]
  exact allowed

theorem governs_bind {program : JournalT WorldM α} {next : α → JournalT WorldM β}
    (first : discipline.Governs program) (later : ∀ answer, discipline.Governs (next answer)) :
    discipline.Governs (program >>= next) := by
  intro world
  obtain ⟨within, allowed⟩ := first world
  obtain ⟨withinLater, allowedLater⟩ :=
    later (observe program world).answer (observe program world).after
  refine ⟨discipline.trans within withinLater, ?_⟩
  intro call member
  rcases List.mem_append.mp member with before | after
  · exact allowed call before
  · exact allowedLater call after

/-- A looser bound governs whatever a tighter one governs. -/
theorem Governs.mono {looser : Discipline} {program : JournalT WorldM α}
    (governed : discipline.Governs program)
    (within : ∀ {before after}, discipline.Within before after → looser.Within before after)
    (allows : ∀ {call}, discipline.Allows call → looser.Allows call) :
    looser.Governs program := by
  intro world
  obtain ⟨withinTighter, allowed⟩ := governed world
  exact ⟨within withinTighter, fun call member => allows (allowed call member)⟩

end Discipline

end ChangeGate.Memory
