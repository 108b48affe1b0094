import ChangeGate.Ci.Build
import ChangeGate.Text.Numeral
import ChangeGate.Url.Basic

/-!
# Addresses of the build server

Where the queue and the builds of a job are listed, and where a build is cancelled, stopped and
started, below the address of the server.
-/

namespace ChangeGate.Ci

open ChangeGate.Text

/-- What the server is asked to tell of each build. -/
def buildFields : String := "builds[number,building,actions[parameters[name,value]]]"

/-- Where the queue is listed. -/
def queueUrl (server : Url) : Url :=
  server.append ["queue", "api", "json"]

/-- Where a queued build is cancelled. -/
def cancelUrl (server : Url) (id : UInt64) : Url :=
  (server.append ["queue", "cancelItem"]).addPairs [("id", numeral id.toNat)]

/-- What lies below a job. -/
def jobUrl (server : Url) (job : String) (below : List String) : Url :=
  server.append ("job" :: job :: below)

/-- Where the builds of a job are listed. -/
def buildsUrl (server : Url) (job : String) : Url :=
  (jobUrl server job ["api", "json"]).addPairs [("tree", buildFields)]

/-- Where a build of a job is stopped. -/
def stopUrl (server : Url) (job : String) (number : UInt64) : Url :=
  jobUrl server job [numeral number.toNat, "stop"]

/-- Where a build of a job is started. -/
def startUrl (server : Url) (job : String) : Url :=
  jobUrl server job ["buildWithParameters"]

/-- Where the last completed build of a job is described. -/
def lastStatusUrl (server : Url) (job : String) : Url :=
  jobUrl server job ["lastCompletedBuild", "api", "json"]

/-- The parameters of a build as pairs of a name and one of its values. -/
def paramPairs (params : BuildParams) : List (String × String) :=
  params.toList.flatMap fun (name, values) => values.map (name, ·)

/-- Where a person can start a build of a job with some parameters. -/
def manualUrl (server : Url) (job : String) (params : BuildParams) : Url :=
  (startUrl server job).addPairs (paramPairs params)

end ChangeGate.Ci
