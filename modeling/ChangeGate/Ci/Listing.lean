import ChangeGate.Ci.Build
import ChangeGate.Failure
import ChangeGate.Json.Decode
import ChangeGate.Json.Printer
import ChangeGate.Json.Reader

/-!
# The listings of builds

What the build server answers: its queue, the builds of a job, and how the last completed build
ended. The parameters of a build are spread over its actions, and a later parameter of the same
name replaces an earlier one. A value that is no text is kept as its compact document text.
-/

namespace ChangeGate.Ci

open ChangeGate.Json

/-- How deep the value of a parameter may nest: an answer nests at most 127 deep, and seven of
those levels lie around the value. -/
def valueDepth : Nat := 127 - 7

/-- The text of a parameter value; null is the empty text. -/
def valueText? : Value → Option String
  | .null => some ""
  | .string text => text
  | value => (render? valueDepth value).map String.ofList

/-- Read a parameter. -/
def parameter? (value : Value) : Option (String × String) := do
  let [name, value] ← fields ["name", "value"] value | none
  pure ((← required text? name), (← orDefault "" valueText? value))

/-- Read the parameters of an action; most actions have none. -/
def actionParameters? (value : Value) : Option (List (String × String)) := do
  let [parameters] ← fields ["parameters"] value | none
  orDefault [] (list? parameter?) parameters

/-- Read the parameters of a list of actions. -/
def parameters? (actions : Option Value) : Option ParamValues := do
  let actions ← orDefault [] (list? actionParameters?) actions
  pure (.ofList actions.flatten)

/-- Read an item of the queue: its job and the build that waits. -/
def queueItem? (value : Value) : Option (String × QueuedBuild) := do
  let [id, task, actions] ← fields ["id", "task", "actions"] value | none
  let id ← required uint64? id
  let job ← orDefault "" (fun task => do
    let [name] ← fields ["name"] task | none
    orDefault "" text? name) task
  pure (job, ⟨id, ← parameters? actions⟩)

/-- Read a build of a job. -/
def startedBuild? (value : Value) : Option StartedBuild := do
  let [number, building, actions] ← fields ["number", "building", "actions"] value | none
  pure
    { number := ← required uint64? number
      building := ← orDefault false bool? building
      params := ← parameters? actions }

/-- The items of a queue document. -/
def queueOfDocument (document : Value) : Option (List (String × QueuedBuild)) := do
  let [items] ← fields ["items"] document | none
  orDefault [] (list? queueItem?) items

/-- The builds of a job document. -/
def buildsOfDocument (document : Value) : Option (List StartedBuild) := do
  let [builds] ← fields ["builds"] document | none
  orDefault [] (list? startedBuild?) builds

/-- The status of a build document. -/
def statusOfDocument (document : Value) : Option BuildStatus := do
  let [number, result] ← fields ["number", "result"] document | none
  pure
    { number := ← orDefault 0 uint64? number
      result := ← orDefault none (nullable text?) result }

/-- Read an answer with a reader for its document. -/
def readAnswer {α : Type} (what : String) (decode : Value → Option α) (body : String) :
    Except ClientError α :=
  match (parse? body).bind decode with
  | some answer => .ok answer
  | none => .error (.badBody ("not " ++ what))

/-- Read the queued builds of a job from an answer, in order. -/
def parseQueue (body job : String) : Except ClientError (List QueuedBuild) :=
  (readAnswer "a build queue" queueOfDocument body).map fun items =>
    (items.filter (·.1 = job)).map (·.2)

/-- Read the builds of a job from an answer, in order. -/
def parseBuilds (body : String) : Except ClientError (List StartedBuild) :=
  readAnswer "a list of builds" buildsOfDocument body

/-- Read how a build ended from an answer. -/
def parseStatus (body : String) : Except ClientError BuildStatus :=
  readAnswer "a build" statusOfDocument body

end ChangeGate.Ci
