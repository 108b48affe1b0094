import ChangeGate.CommandLine.Run
import ChangeGate.Memory.Files
import ChangeGate.Memory.Wire
import ChangeGate.Text.Uuid

/-!
# A machine in memory

The files, the wire and the log of a program as one value, and the platform over it.
-/

namespace ChangeGate.Memory

open ChangeGate.CommandLine ChangeGate.Review ChangeGate.Round ChangeGate.Service ChangeGate.Text

/-- A machine: its files, the wire to the servers, and the lines of the log. -/
structure Machine where
  files : Files := ∅
  wire : Wire := {}
  lines : List (LogFormat × Event) := []
  deriving Inhabited

/-- A computation that may change the machine. -/
abbrev MachineM := StateM Machine

/-- The name of the rounds on a machine in memory. -/
def roundName : String := uuidText [
    0x1B, 0x4E, 0x28, 0xBA, 0x2F, 0xA1, 0x41, 0xD2, 0x88, 0x3F, 0x00, 0x16, 0xD3, 0xCC, 0xA4, 0x27
  ]

namespace Machine

/-- Send a request over the wire. -/
def transport : Http.Transport MachineM := fun request machine =>
  let (answer, wire) := machine.wire.exchange request
  (answer, { machine with wire })

/-- The platform of a machine with an environment. -/
def platform (environment : String → Option String) (reading : ListingReader := parseListing) :
    Platform MachineM where
  environment := environment
  roundName := roundName
  read path := fun machine => (machine.files.read path, machine)
  replace path content := fun machine =>
    let (answer, files) := machine.files.replace path content
    (answer, { machine with files })
  transport _ := transport
  emit format event := fun machine =>
    ((), { machine with lines := machine.lines ++ [(format, event)] })
  reading := reading

/-- The events in the log. -/
def events (machine : Machine) : List Event :=
  machine.lines.map (·.2)

/-- An environment in which the home folder is known. -/
def homeEnvironment (name : String) : Option String :=
  if name = "HOME" then some homeFolder else none

/-- The services of a round with the settings on a machine, with every event in the log. -/
def services (settings : Settings) (reading : ListingReader := parseListing) :
    Except ConnectError (Services MachineM) :=
  let platform := platform homeEnvironment reading
  connect settings transport (platform.logStore (settings.logPath platform.home))
    (platform.emit .json) reading

end Machine

end ChangeGate.Memory
