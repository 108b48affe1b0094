import ChangeGate.CommandLine.Arguments
import ChangeGate.CommandLine.Filter
import ChangeGate.Json.Layout
import ChangeGate.Round.Document
import ChangeGate.Round.Run
import ChangeGate.Service.Remote
import ChangeGate.Settings.File
import ChangeGate.Settings.HomePath

/-!
# The program

The program reads its settings, lets the arguments and the environment override them, checks
them, and runs one round over the two servers. It is written for any platform that has files,
an environment, a transport and a log.
-/

namespace ChangeGate.CommandLine

open ChangeGate.Http ChangeGate.Review ChangeGate.Round ChangeGate.Service ChangeGate.Text

/-- How a line of the log is written. -/
inductive LogFormat where
  | text
  | json
  deriving DecidableEq, Repr, Inhabited

/-- What the program runs on. -/
structure Platform (m : Type → Type) where
  environment : String → Option String
  /-- The name of the round, which tells its lines in the log from those of others. -/
  roundName : String
  read : String → m (Except FileError ByteArray)
  /-- Replace a file as a whole, or leave it as it is. -/
  replace : String → ByteArray → m (Except FileError Unit)
  /-- A transport that waits for a response for some seconds. -/
  transport : (timeout : UInt64) → Transport m
  emit : LogFormat → Event → m Unit
  /-- How the listings of the review server are read. -/
  reading : ListingReader := parseListing

/-- Why the program could not finish. -/
inductive RunFailure where
  | settingsFile (path : String) (cause : Failure)
  | settings (cause : SettingsError)
  | connect (cause : ConnectError)
  | round (cause : Failure)
  deriving DecidableEq, Repr, Inhabited

/-- What the program could not do. -/
def RunFailure.message : RunFailure → String
  | .settingsFile path _ => "Failed to load config file: " ++ quoted path
  | .settings _ => "Invalid configuration"
  | .connect (.review _) => "Failed to create Gerrit client"
  | .connect (.ci _) => "Failed to create Jenkins client"
  | .round _ => "Presubmit round failed"

/-- Why the program could not do it. -/
def RunFailure.reason : RunFailure → String
  | .settingsFile _ cause => cause.message
  | .settings cause => cause.message
  | .connect cause => cause.cause.message
  | .round cause => cause.message

/-- How the program ends. -/
inductive Ending where
  | help
  | version
  | refused (cause : UsageError)
  | failed (cause : RunFailure)
  /-- The round has a report, which is printed if it was asked for. -/
  | finished (report : Report) (shown : Bool)
  deriving Repr

/-- What the program says of its version. -/
def versionText : String := programName ++ " " ++ programVersion ++ "\n"

/-- How the program is used. -/
def helpText : String :=
  "Usage: presubmit [OPTIONS] <COMMAND>\n\nCommands:\n"
    ++ "  query  Query open changes and dispatch presubmit builds for new patchsets\n"

namespace Ending

/-- The code that the program exits with. -/
def exitCode : Ending → UInt8
  | help => 0
  | version => 0
  | refused _ => 2
  | failed _ => 1
  | finished .. => 0

/-- The report that is printed. -/
def report? : Ending → Option Report
  | finished report true => some report
  | _ => none

/-- What else the program prints. -/
def output : Ending → String
  | help => helpText
  | version => versionText
  | finished report _ =>
      numeral report.sent ++ " sent.\n"
        ++ if 0 < report.submitted then numeral report.submitted ++ " submitted.\n" else ""
  | _ => ""

/-- All that the program prints, the report on lines of its own. -/
def printed (ending : Ending) : String :=
  match ending.report? with
  | some report => String.ofList (Json.layout 0 report.document) ++ "\n" ++ ending.output
  | none => ending.output

/-- What the program complains about at its end. -/
def complaint? : Ending → Option String
  | failed cause => some cause.message
  | _ => none

end Ending

variable {m : Type → Type} [Monad m]

namespace Platform

/-- The home directory. -/
def home (platform : Platform m) : Option String :=
  platform.environment "HOME"

/-- The log of refs seen in a file. -/
def logStore (platform : Platform m) (path : String) : LogStore m where
  path := path
  read := platform.read path
  replace := platform.replace path

/-- Write an event to the log if a filter admits it. -/
def emitAdmitted (platform : Platform m) (format : LogFormat) (filter : Filter) (event : Event) :
    m Unit :=
  if filter.admits platform.roundName event then platform.emit format event else pure ()

/-- The filter in force. -/
def filter (platform : Platform m) (verbose : Bool) : Filter :=
  filterInForce (platform.environment "RUST_LOG") (if verbose then .debug else .info)

end Platform

/-- Run a round with settings that are in force. -/
def runWithSettings (platform : Platform m) (format : LogFormat) (filter : Filter)
    (settings : Settings) : m (Except RunFailure Report) := do
  match settings.validate with
  | .error cause => pure (.error (.settings cause))
  | .ok () =>
      let log := platform.logStore (settings.logPath platform.home)
      let transport := platform.transport settings.gate.requestTimeout
      let emit := platform.emitAdmitted format filter
      match connect settings transport log emit platform.reading with
      | .error cause => pure (.error (.connect cause))
      | .ok services => pure ((← Round.run settings services).mapError .round)

/-- Run a round with the settings of a file. -/
def runRound (platform : Platform m) (config : String) (verbose json : Bool)
    (overrides : List (Override × String)) : m (Except RunFailure Report) := do
  match SettingsFile.load (← platform.read config) with
  | .error cause => pure (.error (.settingsFile config cause))
  | .ok settings =>
      runWithSettings platform (if json then .json else .text) (platform.filter verbose)
        (applyOverrides settings overrides)

/-- Run the program. -/
def run (platform : Platform m) (arguments : List String) : m Ending := do
  match Command.ofArguments platform.environment arguments with
  | .error cause => pure (.refused cause)
  | .ok .showHelp => pure .help
  | .ok .showVersion => pure .version
  | .ok (.round config verbose json report overrides) =>
      match ← runRound platform config verbose json overrides with
      | .ok result => pure (.finished result report)
      | .error cause => pure (.failed cause)

end ChangeGate.CommandLine
