import ChangeGate.Failure
import ChangeGate.Settings.Validity
import ChangeGate.Toml.Reader

/-!
# The settings file

Settings are read from a configuration document with a table for each part. Unknown keys are
passed over, absent keys keep their defaults, and a value of another kind than expected makes
the file unreadable. A part may also be written as an array of its values in order.
-/

namespace ChangeGate

open ChangeGate.Toml

namespace SettingsFile

/-- The values of a part with these keys, absent ones included. An array gives the values in
order, and a date has none of them. -/
def fields (keys : List String) : Value → Option (List (Option Value))
  | .table _ entries => some (keys.map (Entries.get? entries))
  | .array items => some ((List.range keys.length).map fun place => items[place]?)
  | .tables elements =>
      some ((List.range keys.length).map fun place => (elements[place]?).map (Value.table .header))
  | .date => some (keys.map fun _ => none)
  | _ => none

/-- A value that stands for itself when present. -/
def orDefault {α : Type} (default : α) (decode : Value → Option α) : Option Value → Option α
  | none => some default
  | some value => decode value

/-- A value that may be absent. -/
def optional {α : Type} (decode : Value → Option α) : Option Value → Option (Option α)
  | none => some none
  | some value => (decode value).map some

/-- A text. -/
def text? : Value → Option String
  | .string text => some text
  | _ => none

/-- A list of texts. -/
def texts? : Value → Option (List String)
  | .array items => items.mapM text?
  | _ => none

/-- An integer that is not negative and below a bound. -/
def natural? (bound : Nat) : Value → Option Nat
  | .integer value => if 0 ≤ value ∧ value < bound then some value.toNat else none
  | _ => none

/-- A table whose keys are free. -/
def map? {α : Type} (decode : Value → Option α) : Value → Option (Std.ExtTreeMap String α)
  | .table _ entries => do
      let decoded ← entries.mapM fun (key, value) => do pure (key, ← decode value)
      pure (.ofList decoded)
  | _ => none

/-- Read the settings of the review server. -/
def review? (value : Value) : Option ReviewSettings := do
  let [host, query, user, password] ← fields ["host", "query", "user", "password"] value | none
  let defaults : ReviewSettings := {}
  pure
    { host := ← orDefault defaults.host text? host
      query := ← orDefault defaults.query text? query
      user := ← optional text? user
      password := ← optional text? password }

/-- Read the settings of the build server. -/
def ci? (value : Value) : Option CiSettings := do
  let [host, job, user, token] ← fields ["host", "job", "user", "token"] value | none
  let defaults : CiSettings := {}
  pure
    { host := ← orDefault defaults.host text? host
      job := ← orDefault defaults.job text? job
      user := ← optional text? user
      token := ← optional text? token }

/-- Read the rules of the gate. -/
def gate? (value : Value) : Option GateSettings := do
  let [logFile, trustedDomains, emailWhitelist, knownProjects, requestTimeout] ←
    fields
      ["log_file", "trusted_domains", "email_whitelist", "known_projects", "request_timeout_secs"]
      value
    | none
  let defaults : GateSettings := {}
  pure
    { logFile := ← orDefault defaults.logFile text? logFile
      trustedDomains := ← orDefault [] texts? trustedDomains
      emailWhitelist := ← orDefault [] texts? emailWhitelist
      knownProjects := ← orDefault [] texts? knownProjects
      requestTimeout := ← orDefault defaults.requestTimeout
        (fun value => (natural? UInt64.size value).map UInt64.ofNat) requestTimeout }

/-- Read the settings of a project. -/
def project? (value : Value) : Option ProjectSettings := do
  let [tests] ← fields ["tests"] value | none
  pure { tests := ← orDefault [] texts? tests }

/-- Read the settings of a test. -/
def test? (value : Value) : Option TestSettings := do
  let [parts] ← fields ["parts"] value | none
  pure { parts := (← optional (natural? UInt32.size) parts).map UInt32.ofNat }

/-- Read all settings from a document. -/
def ofEntries (entries : Entries) : Option Settings := do
  pure
    { review := ← orDefault {} review? (Entries.get? entries "gerrit")
      ci := ← orDefault {} ci? (Entries.get? entries "jenkins")
      gate := ← orDefault {} gate? (Entries.get? entries "presubmit")
      projects := ← orDefault ∅ (map? project?) (Entries.get? entries "projects")
      tests := ← orDefault ∅ (map? test?) (Entries.get? entries "tests") }

/-- Read settings from a text. -/
def parse (text : String) : Except Failure Settings :=
  match (Toml.parse? text).bind ofEntries with
  | some settings => .ok settings
  | none => .error (.settingsFile "not a settings document")

/-- Read settings from what reading their file gave, without checking them. -/
def load : Except FileError ByteArray → Except Failure Settings
  | .error cause => .error (.file cause)
  | .ok content =>
      match String.fromUTF8? content with
      | some text => parse text
      | none => .error (.file .notText)

/-- Read and check settings. -/
def loadValid (file : Except FileError ByteArray) : Except Failure Settings := do
  let settings ← load file
  match settings.validate with
  | .ok () => pure settings
  | .error cause => .error (.settings cause)

end SettingsFile

end ChangeGate
