import ChangeGate.CommandLine.Directive
import ChangeGate.Round.Event

/-!
# Which events are shown

A filter is a list of directives. An event is shown if the directive that describes it most
closely says so, or one that is about the span in which the round runs. A text that is no filter
is not used at all.
-/

namespace ChangeGate.CommandLine

open ChangeGate.Round

/-- The level of an event. -/
def levelOf (event : Event) : Level :=
  if event.isWarning then .warn else .info

/-- The target under which the events of a round are made known. -/
def eventTarget : String := "presubmit_core::obs"

/-- The span in which a round runs. -/
def roundSpan : String := "presubmit.run"

/-- The field of that span, whose value is the name of the round. -/
def roundField : String := "run_id"

namespace Directive

/-- The target of a directive fits the events and the span of a round. -/
def fitsTarget (directive : Directive) : Bool :=
  directive.target.all fun target => target.toList.isPrefixOf eventTarget.toList

/-- A directive about events fits an event, which must have all the fields. -/
def fitsEvent (directive : Directive) (event : Event) : Bool :=
  directive.fitsTarget && directive.fieldNames.all event.fieldNames.contains

/-- A directive about spans fits the span of a round. -/
def fitsRound (directive : Directive) : Bool :=
  directive.fitsTarget && directive.span.all (· = roundSpan)
    && directive.fieldNames.all (· = roundField)

/-- The name of a round passes all tests that a directive has for values. -/
def matchesRound (directive : Directive) (round : String) : Bool :=
  directive.fields.all fun test => test.value.all (·.passes round.toList)

end Directive

/-- A filter of events. -/
abbrev Filter := List Directive

namespace Filter

/-- Read a filter. -/
def parse? (text : String) : Option Filter :=
  ((text.toList.splitOn ',').filter (!·.isEmpty)).mapM Directive.parse?

/-- The directives about events by themselves. -/
def statics (filter : Filter) : List Directive :=
  List.filter (·.isStatic) filter

/-- The directives about the events in spans. -/
def dynamics (filter : Filter) : List Directive :=
  List.filter (·.isDynamic) filter

/-- The closer of two directives; of equally close ones the later. -/
def closer (first : Option Directive) (second : Directive) : Option Directive :=
  match first with
  | none => some second
  | some first => if first.isCloser second then some first else some second

/-- The directive about events by themselves that decides on an event. -/
def deciding? (filter : Filter) (event : Event) : Option Directive :=
  (filter.statics.filter (·.fitsEvent event)).foldl closer none

/-- The most that any directive shows. Spans in whose values it matters what they are can be
anywhere. -/
def reach (filter : Filter) : Level :=
  if filter.dynamics.any (·.testsValue) then .trace
  else .highest ((filter.statics ++ filter.dynamics).map (·.level))

/-- How much is shown of a round because of the span in which it runs. The span is known only if
spans are within the reach of the filter. -/
def shownInRound (filter : Filter) (round : String) : Level :=
  if Level.info.rank ≤ filter.reach.rank then
    let fitting := (Directive.inForce filter.dynamics).filter fun directive =>
      directive.fitsRound && directive.matchesRound round
    .highest (fitting.map (·.level))
  else .off

/-- The filter admits an event of a round. -/
def admits (filter : Filter) (round : String) (event : Event) : Bool :=
  (levelOf event).rank ≤ (filter.shownInRound round).rank
    || (filter.deciding? event).any fun directive => (levelOf event).rank ≤ directive.level.rank

end Filter

/-- The targets that are never shown in more detail than warnings unless they are asked for. -/
def noisyTargets : List String := ["hyper", "reqwest", "rustls"]

/-- The filter that is used when none is given. -/
def defaultFilter (level : Level) : String :=
  String.intercalate "," (level.name :: noisyTargets.map (· ++ "=warn"))

/-- The filter in force: the given one if it can be read, or else the default. -/
def filterInForce (given : Option String) (level : Level) : Filter :=
  match given.bind Filter.parse? with
  | some filter => filter
  | none => (Filter.parse? (defaultFilter level)).getD []

end ChangeGate.CommandLine
