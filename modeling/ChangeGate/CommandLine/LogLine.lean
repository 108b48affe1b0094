import ChangeGate.CommandLine.Run
import ChangeGate.Json.Printer

/-!
# Lines of the log

An event as a line of the log, for people or as a document.
-/

namespace ChangeGate.CommandLine

open ChangeGate.Json ChangeGate.Round ChangeGate.Text

/-- The name of the level of an event, as the log shows it. -/
def levelText (event : Event) : String :=
  (levelOf event).name.toUpper

/-- A detail in a document. -/
def detailText : Detail → List Char
  | .text value => quote value
  | .count value => (numeral value).toList

/-- A detail as people read it. -/
def plainDetail : Detail → String
  | .text value => value
  | .count value => numeral value

/-- An event as a document on one line. -/
def documentLine (event : Event) : String :=
  let details := event.details.map fun (name, detail) => (name, detailText detail)
  let fields := objectText (("event", quote event.name) :: details)
  String.ofList (objectText [("level", quote (levelText event)), ("fields", fields)])

/-- An event as people read it, on one line. -/
def plainLine (event : Event) : String :=
  let details := event.details.map fun (name, detail) => name ++ "=" ++ plainDetail detail
  String.intercalate " " (levelText event :: ("event=" ++ quoted event.name) :: details)

/-- The line of an event in a format. -/
def logLine (format : LogFormat) (event : Event) : String :=
  match format with
  | .text => plainLine event
  | .json => documentLine event

end ChangeGate.CommandLine
