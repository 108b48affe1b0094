import ChangeGate.Proofs.Round.Simulation
import Mathlib.Control.Monad.Writer

/-!
# Services with a journal

Services that note every call made to them, whether it succeeds or not, and every event made
known. What a round does is the same with a journal and without one, so what the journal says of
a round is true of the round.
-/

namespace ChangeGate.Service

open ChangeGate.Ci ChangeGate.Review ChangeGate.Round

/-- A call to a service, with all that is passed along. -/
inductive Call where
  | query (text : String)
  | post (message : String) (references : List String) (verified : Bool)
  | submit (references : List String)
  | queued (job : String)
  | started (job : String)
  | cancelQueued (id : UInt64)
  | stop (job : String) (number : UInt64)
  | start (job : String) (params : BuildParams)
  | lastStatus (job : String)
  | read
  | replace (content : ByteArray)
  | emit (event : Event)

/-- A computation that also lists the calls it makes, in order. -/
abbrev JournalT (m : Type → Type) := WriterT (List Call) m

variable {m : Type → Type} [Monad m]

/-- Make a call and note it. -/
def noting {α : Type} (call : Call) (program : m α) : JournalT m α :=
  WriterT.mk ((·, [call]) <$> program)

/-- The services with a journal. -/
def Services.journaled (services : Services m) : Services (JournalT m) where
  review :=
    { query := fun text => noting (.query text) (services.review.query text)
      post := fun message references verified =>
        noting (.post message references verified)
          (services.review.post message references verified)
      submit := fun references => noting (.submit references) (services.review.submit references) }
  ci :=
    { queued := fun job => noting (.queued job) (services.ci.queued job)
      started := fun job => noting (.started job) (services.ci.started job)
      cancelQueued := fun id => noting (.cancelQueued id) (services.ci.cancelQueued id)
      stop := fun job number => noting (.stop job number) (services.ci.stop job number)
      start := fun job params => noting (.start job params) (services.ci.start job params)
      lastStatus := fun job => noting (.lastStatus job) (services.ci.lastStatus job)
      manualLink := services.ci.manualLink }
  log :=
    { path := services.log.path
      read := noting .read services.log.read
      replace := fun content => noting (.replace content) (services.log.replace content) }
  emit := fun event => noting (.emit event) (services.emit event)

variable [LawfulMonad m]

/-- A computation that also writes something down does what the one without it does. -/
def forgetting {ω : Type} : Simulation (WriterT (List ω) m) m where
  Related := fun writing plain => Prod.fst <$> writing.run = plain
  related_pure := by
    intro α answer
    exact map_pure Prod.fst (answer, [])
  related_bind := by
    intro α β first other next otherNext related relatedNext
    subst related
    change Prod.fst <$> (first.run >>= fun noted =>
      (fun later => (later.1, noted.2 ++ later.2)) <$> (next noted.1).run) = _
    rw [map_bind, bind_map_left]
    congr 1
    funext noted
    rw [← relatedNext noted.1, Functor.map_map]

/-- A computation with a journal does what the one without it does. -/
def erasure : Simulation (JournalT m) m where
  Related := fun journaled plain => Prod.fst <$> journaled.run = plain
  related_pure := forgetting.related_pure
  related_bind := forgetting.related_bind

/-- Noting a call does not change what it does. -/
theorem erasure_noting {α : Type} (call : Call) (program : m α) :
    erasure.Related (noting call program) program := by
  change Prod.fst <$> (·, [call]) <$> program = program
  rw [Functor.map_map]
  exact id_map' program

/-- The services with a journal are the services. -/
theorem erasure_serves_journaled (services : Services m) :
    erasure.Serves services.journaled services where
  query _ := erasure_noting _ _
  post _ _ _ := erasure_noting _ _
  submit _ := erasure_noting _ _
  queued _ := erasure_noting _ _
  started _ := erasure_noting _ _
  cancelQueued _ := erasure_noting _ _
  stop _ _ := erasure_noting _ _
  start _ _ := erasure_noting _ _
  lastStatus _ := erasure_noting _ _
  manualLink _ _ := rfl
  logPath := rfl
  read := erasure_noting _ _
  replace _ := erasure_noting _ _
  emit _ := erasure_noting _ _

end ChangeGate.Service
