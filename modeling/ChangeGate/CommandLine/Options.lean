import ChangeGate.Settings.Basic

/-!
# Options

The options of the program, and the settings that some of them take the place of.
-/

namespace ChangeGate.CommandLine

/-- An option: its long name, its letter if it has one, whether a value belongs to it, and the
variable of the environment that speaks for it when it is not given. -/
structure OptionName where
  name : String
  letter : Option Char := none
  takesValue : Bool := true
  environmentName : Option String := none
  /-- An empty value is refused. -/
  needsText : Bool := false
  deriving DecidableEq, Repr, Inhabited

/-- The file of the settings. -/
def configOption : OptionName :=
  { name := "config", letter := some 'c', environmentName := some "PRESUBMIT_CONFIG"
    needsText := true }

/-- Show more. -/
def verboseOption : OptionName := { name := "verbose", letter := some 'v', takesValue := false }

/-- Write the log as documents. -/
def jsonOption : OptionName := { name := "json", takesValue := false }

/-- Print the report. -/
def reportOption : OptionName := { name := "report", takesValue := false }

/-- Show how the program is used. -/
def helpOption : OptionName := { name := "help", letter := some 'h', takesValue := false }

/-- Show the version. -/
def versionOption : OptionName := { name := "version", letter := some 'V', takesValue := false }

/-- An option that takes the place of a setting. -/
inductive Override where
  | query
  | logFile
  | ciHost
  | ciJob
  | reviewUser
  | reviewPassword
  | ciUser
  | ciToken
  deriving DecidableEq, Repr, Inhabited

namespace Override

/-- All overrides. -/
def all : List Override :=
  [query, logFile, ciHost, ciJob, reviewUser, reviewPassword, ciUser, ciToken]

/-- The option of an override. -/
def option : Override → OptionName
  | query => { name := "query", environmentName := some "PRESUBMIT_QUERY" }
  | logFile => { name := "log-file", environmentName := some "PRESUBMIT_LOG_FILE" }
  | ciHost => { name := "jenkins-host", environmentName := some "JENKINS_HOST" }
  | ciJob => { name := "jenkins-job", environmentName := some "JENKINS_JOB" }
  | reviewUser => { name := "gerrit-user", environmentName := some "GERRIT_USER" }
  | reviewPassword => { name := "gerrit-password", environmentName := some "GERRIT_PASSWORD" }
  | ciUser => { name := "jenkins-user", environmentName := some "JENKINS_USER" }
  | ciToken => { name := "jenkins-token", environmentName := some "JENKINS_TOKEN" }

/-- The settings with one of them replaced. -/
def apply (settings : Settings) (value : String) : Override → Settings
  | query => { settings with review := { settings.review with query := value } }
  | logFile => { settings with gate := { settings.gate with logFile := value } }
  | ciHost => { settings with ci := { settings.ci with host := value } }
  | ciJob => { settings with ci := { settings.ci with job := value } }
  | reviewUser => { settings with review := { settings.review with user := some value } }
  | reviewPassword =>
      { settings with review := { settings.review with password := some value } }
  | ciUser => { settings with ci := { settings.ci with user := some value } }
  | ciToken => { settings with ci := { settings.ci with token := some value } }

end Override

/-- The options that are known before and after the name of the command. -/
def sharedOptions : List OptionName :=
  [configOption, verboseOption, jsonOption, helpOption]

/-- The options that are known before the name of the command. -/
def leadingOptions : List OptionName :=
  versionOption :: sharedOptions

/-- The options of the command. -/
def queryOptions : List OptionName :=
  reportOption :: sharedOptions ++ Override.all.map Override.option

/-- The settings with the overrides carried out. -/
def applyOverrides (settings : Settings) (overrides : List (Override × String)) : Settings :=
  overrides.foldl (fun settings (override, value) => override.apply settings value) settings

end ChangeGate.CommandLine
