import ChangeGate.Json.Value
import ChangeGate.Round.Report

/-!
# Reports as documents

The report of a round as other programs read it.
-/

namespace ChangeGate.Round

open ChangeGate.Json

/-- What became of a group. -/
def Outcome.document : Outcome → Value
  | .dispatched tests =>
      .ofMembers [("state", .ofText "dispatched"), ("tests", .ofList .ofText tests)]
  | .skipped reason => .ofMembers [("state", .ofText "skipped"), ("reason", .ofText reason.text)]
  | .errored attempt failure =>
      .ofMembers [("state", .ofText "errored"), ("error", .ofText (attemptError attempt failure))]

/-- What became of one group, with its label. -/
def GroupReport.document (report : GroupReport) : Value :=
  .ofMembers
    [ ("group", .ofText report.group), ("changes", .ofNat report.changes),
      ("outcome", report.outcome.document) ]

/-- The report of a round. -/
def Report.document (report : Report) : Value :=
  .ofMembers
    [ ("sent", .ofNat report.sent), ("skipped", .ofNat report.skipped),
      ("errored", .ofNat report.errored), ("submitted", .ofNat report.submitted),
      ("multipart_errors", .ofNat report.reportedSets),
      ("skip_reason", .ofOption (fun reason => .ofText reason.text) report.stopped),
      ("groups", .ofList GroupReport.document report.groups) ]

end ChangeGate.Round
