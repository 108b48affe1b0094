import ChangeGate.Proofs.Round.Simulation
import ChangeGate.Service.Remote

/-!
# Servers over related transports

A client is one program for all transports. Over transports whose exchanges are related, every call
to a server over HTTP is related, and so are the services of a round.
-/

namespace ChangeGate.Service

open ChangeGate.Ci ChangeGate.Http ChangeGate.Review ChangeGate.Round

variable {m n : Type → Type} [Monad m] [Monad n] {simulation : Simulation m n}
  {transport : Transport m} {otherTransport : Transport n}

section
variable (related : ∀ request, simulation.Related (transport request) (otherTransport request))
  (credentials : Option Credentials)
include related

/-! ## Requests -/

theorem related_exchange (method : Method) (url : Url) (content : Option Content) :
    simulation.Related (Client.exchange ⟨transport, credentials⟩ method url content)
      (Client.exchange ⟨otherTransport, credentials⟩ method url content) := by
  rw [Client.exchange, Client.exchange]
  split
  · apply simulation.related_bind (related _)
    intro reply
    cases reply with
    | ok response => exact simulation.related_pure _
    | error detail => exact simulation.related_pure _
  · exact simulation.related_pure _

theorem related_clientPost (url : Url) (content : Option Content) :
    simulation.Related (Client.post ⟨transport, credentials⟩ url content)
      (Client.post ⟨otherTransport, credentials⟩ url content) :=
  simulation.related_bind (related_exchange related credentials .post url content) fun _ =>
    simulation.related_pure _

theorem related_readDocument {α : Type} (url : Url) (read : String → Except ClientError α) :
    simulation.Related (readDocument ⟨transport, credentials⟩ url read)
      (readDocument ⟨otherTransport, credentials⟩ url read) :=
  simulation.related_bind (related_exchange related credentials .get url none) fun _ =>
    simulation.related_pure _

/-! ## Calls -/

theorem related_remoteQuery (server : Url) (reading : ListingReader) (text : String) :
    simulation.Related ((remoteReview ⟨transport, credentials⟩ server reading).query text)
      ((remoteReview ⟨otherTransport, credentials⟩ server reading).query text) := by
  apply simulation.related_bind (related_exchange related credentials .get _ none)
  intro answer
  cases answer with
  | ok body => exact simulation.related_pure _
  | error cause => exact simulation.related_pure _

theorem related_postEach (url : ChangeRef → Url) (content : Option Content)
    (references : List String) :
    simulation.Related (postEach ⟨transport, credentials⟩ url content references)
      (postEach ⟨otherTransport, credentials⟩ url content references) := by
  induction references with
  | nil => exact simulation.related_pure _
  | cons reference rest inductionHypothesis =>
      rw [postEach, postEach]
      cases ChangeRef.parse reference with
      | error cause => exact simulation.related_pure _
      | ok ref =>
          apply simulation.related_bind (related_clientPost related credentials (url ref) content)
          intro answer
          cases answer with
          | error cause => exact simulation.related_pure _
          | ok => exact inductionHypothesis

end

theorem related_withServer {α : Type} (server : Option Url)
    {call : Url → m (Except ClientError α)} {otherCall : Url → n (Except ClientError α)}
    (calls : ∀ url, simulation.Related (call url) (otherCall url)) :
    simulation.Related (withServer server call) (withServer server otherCall) := by
  cases server with
  | none => exact simulation.related_pure _
  | some url => exact simulation.related_bind (calls url) fun _ => simulation.related_pure _

/-! ## Services -/

/-- Both collections of services are made and are related, or neither is, for the same reason. -/
inductive MadeAlike (simulation : Simulation m n) :
    Except ConnectError (Services m) → Except ConnectError (Services n) → Prop where
  | made {services : Services m} {others : Services n}
      (serves : simulation.Serves services others) :
      MadeAlike simulation (.ok services) (.ok others)
  | failed (cause : ConnectError) : MadeAlike simulation (.error cause) (.error cause)

/-- The services of a round are related over related transports, logs and events. -/
theorem madeAlike_connect (settings : Settings) {log : LogStore m} {otherLog : LogStore n}
    {emit : Event → m Unit} {otherEmit : Event → n Unit}
    (transports : ∀ request, simulation.Related (transport request) (otherTransport request))
    (path : log.path = otherLog.path) (read : simulation.Related log.read otherLog.read)
    (replace : ∀ content, simulation.Related (log.replace content) (otherLog.replace content))
    (emits : ∀ event, simulation.Related (emit event) (otherEmit event))
    (reading : ListingReader) :
    MadeAlike simulation (connect settings transport log emit reading)
      (connect settings otherTransport otherLog otherEmit reading) := by
  simp only [connect, reviewOfSettings, ciOfSettings]
  cases serverUrl settings.review.host with
  | error cause => exact .failed _
  | ok review =>
      cases ciUrl? settings.ci.host with
      | error cause => exact .failed _
      | ok ci =>
          exact .made {
            query := related_remoteQuery transports _ review reading
            post := fun _ references _ => related_postEach transports _ _ _ references
            submit := related_postEach transports _ _ _
            queued := fun _ => related_withServer ci fun _ =>
              related_readDocument transports _ _ _
            started := fun _ => related_withServer ci fun _ =>
              related_readDocument transports _ _ _
            cancelQueued := fun _ => related_withServer ci fun _ =>
              related_clientPost transports _ _ _
            stop := fun _ _ => related_withServer ci fun _ =>
              related_clientPost transports _ _ _
            start := fun _ _ => related_withServer ci fun _ =>
              related_clientPost transports _ _ _
            lastStatus := fun _ => related_withServer ci fun _ =>
              related_readDocument transports _ _ _
            manualLink := fun _ _ => rfl
            logPath := path
            read
            replace
            emit := emits }

end ChangeGate.Service
