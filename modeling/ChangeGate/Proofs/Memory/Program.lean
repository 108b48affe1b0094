import ChangeGate.Memory.Machine
import ChangeGate.Proofs.CommandLine.Layers
import ChangeGate.Proofs.Service.Clients
import ChangeGate.Proofs.Text.Utf8

/-!
# The program on a machine

The program does what a round does with the layered settings, and shows of its events those that the
filter admits. Where there are no settings to run a round with, it does nothing.
-/

namespace ChangeGate.Memory

open ChangeGate.CommandLine ChangeGate.Http ChangeGate.Review ChangeGate.Round ChangeGate.Service
  ChangeGate.Text

/-! ## Machines that differ in their lines -/

/-- The lines of a log. -/
abbrev Lines := List (LogFormat × Event)

/-- Two machines have the same files and wires, and their lines match. -/
structure SameBut (matched : Lines → Lines → Prop) (machine other : Machine) : Prop where
  files : machine.files = other.files
  wire : machine.wire = other.wire
  lines : matched machine.lines other.lines

/-- Programs that do the same on machines whose lines match, and keep them matched. -/
def besides (matched : Lines → Lines → Prop) : Simulation MachineM MachineM where
  Related program other := ∀ machine twin, SameBut matched machine twin →
    (program.run machine).1 = (other.run twin).1 ∧
      SameBut matched (program.run machine).2 (other.run twin).2
  related_pure _ := fun _ _ same => ⟨rfl, same⟩
  related_bind := by
    intro α β program other next otherNext first later machine twin same
    obtain ⟨answers, after⟩ := first machine twin same
    rw [StateT.run_bind, StateT.run_bind]
    change ((next (program.run machine).1).run (program.run machine).2).1 =
        ((otherNext (other.run twin).1).run (other.run twin).2).1 ∧ SameBut matched
      ((next (program.run machine).1).run (program.run machine).2).2
      ((otherNext (other.run twin).1).run (other.run twin).2).2
    rw [answers]
    exact later _ _ _ after

section
variable {matched : Lines → Lines → Prop}

theorem besides_transport (request : Request) :
    (besides matched).Related (Machine.transport request) (Machine.transport request) := by
  intro machine twin same
  have answers : (machine.wire.exchange request).1 = (twin.wire.exchange request).1 := by
    rw [same.wire]
  have wires : (machine.wire.exchange request).2 = (twin.wire.exchange request).2 := by
    rw [same.wire]
  exact ⟨answers, same.files, wires, same.lines⟩

theorem besides_read (environment : String → Option String) (reading : ListingReader)
    (path : String) :
    (besides matched).Related ((Machine.platform environment reading).read path)
      ((Machine.platform environment reading).read path) := by
  intro machine twin same
  have read : machine.files.read path = twin.files.read path := by rw [same.files]
  exact ⟨read, same⟩

theorem besides_replace (environment : String → Option String) (reading : ListingReader)
    (path : String) (content : ByteArray) :
    (besides matched).Related ((Machine.platform environment reading).replace path content)
      ((Machine.platform environment reading).replace path content) := by
  intro machine twin same
  have answers : (machine.files.replace path content).1 = (twin.files.replace path content).1 := by
    rw [same.files]
  have files : (machine.files.replace path content).2 = (twin.files.replace path content).2 := by
    rw [same.files]
  exact ⟨answers, files, same.wire, same.lines⟩

end

/-! ## Shown events -/

/-- Behind some lines, one log shows those of some events that are admitted, and another one all of
them. -/
def Shows (start : Lines) (format : LogFormat) (admits : Event → Bool) (lines others : Lines) :
    Prop :=
  ∃ events : List Event, lines = start ++ (events.filter admits).map (format, ·) ∧
    others = start ++ events.map (.json, ·)

theorem besides_emit (environment : String → Option String) (reading : ListingReader)
    (start : Lines) (format : LogFormat) (filter : Filter) (event : Event) :
    (besides (Shows start format (filter.admits roundName))).Related
      ((Machine.platform environment reading).emitAdmitted format filter event)
      ((Machine.platform environment reading).emit .json event) := by
  rintro machine twin ⟨files, wire, events, shown, all⟩
  have name : (Machine.platform environment reading).roundName = roundName := rfl
  have told : twin.lines ++ [(.json, event)] = start ++ (events ++ [event]).map (.json, ·) := by
    rw [all, List.map_append, List.append_assoc, List.map_singleton]
  rw [Platform.emitAdmitted, name]
  by_cases admitted : filter.admits roundName event = true
  · rw [if_pos admitted]
    refine ⟨rfl, files, wire, events ++ [event], ?_, told⟩
    change machine.lines ++ [(format, event)] = _
    rw [shown, List.filter_append, List.filter_cons_of_pos admitted, List.filter_nil,
      List.map_append, List.append_assoc, List.map_singleton]
  · rw [if_neg admitted]
    refine ⟨rfl, files, wire, events ++ [event], ?_, told⟩
    change machine.lines = _
    rw [shown, List.filter_append, List.filter_cons_of_neg admitted, List.filter_nil,
      List.append_nil]

/-- The directives that are in force when the environment gives no filter. -/
def defaultDirectives (level : Level) : Filter :=
  { level } :: noisyTargets.map fun target => { target := some target, level := .warn }

theorem filterInForce_none {level : Level} (normal : level = .info ∨ level = .debug) :
    filterInForce none level = defaultDirectives level := by
  have read : Filter.parse? (defaultFilter level) = some (defaultDirectives level) := by
    rcases normal with rfl | rfl
    · decide +kernel
    · decide +kernel
  rw [filterInForce, Option.bind_none, read, Option.getD_some]

/-- Without a filter in the environment, every event of a round is shown. -/
theorem admits_of_default {level : Level} (normal : level = .info ∨ level = .debug)
    (round : String) (event : Event) : (filterInForce none level).admits round event = true := by
  have statics : Filter.statics (defaultDirectives level) = defaultDirectives level := rfl
  have noisy : ∀ target ∈ noisyTargets,
      Directive.fitsTarget { target := some target, level := .warn } = false := by decide +kernel
  have decides : Filter.deciding? (defaultDirectives level) event = some { level } := by
    rw [Filter.deciding?, statics, defaultDirectives, List.filter_cons_of_pos rfl,
      List.filter_eq_nil_iff.mpr]
    · rfl
    · intro directive member
      obtain ⟨target, isNoisy, rfl⟩ := List.mem_map.mp member
      rw [Directive.fitsEvent, noisy target isNoisy, Bool.false_and]
      exact Bool.false_ne_true
  have shown : (levelOf event).rank ≤ level.rank := by
    rw [levelOf]
    rcases normal with rfl | rfl
    · split <;> decide
    · split <;> decide
  rw [filterInForce_none normal, Filter.admits, decides]
  simp [shown]

/-! ## Services in an environment -/

/-- The services of a round with some settings in an environment, with every event in the log. -/
def servicesIn (environment : String → Option String) (reading : ListingReader)
    (settings : Settings) : Except ConnectError (Services MachineM) :=
  let platform := Machine.platform environment reading
  connect settings Machine.transport (platform.logStore (settings.logPath platform.home))
    (platform.emit .json) platform.reading

/-- The services of a round that the program runs, which shows the events that a filter admits. -/
def shownServicesIn (environment : String → Option String) (reading : ListingReader)
    (format : LogFormat) (filter : Filter) (settings : Settings) :
    Except ConnectError (Services MachineM) :=
  let platform := Machine.platform environment reading
  connect settings (platform.transport settings.gate.requestTimeout)
    (platform.logStore (settings.logPath platform.home)) (platform.emitAdmitted format filter)
    platform.reading

/-! ## What the program does -/

section
variable (environment : String → Option String) (reading : ListingReader)
  (arguments : List String) (config : String)

/-- Settings that the program runs a round with, and the services of that round. -/
def InForce (machine : Machine) (settings : Settings) (services : Services MachineM) : Prop :=
  ∃ file, SettingsFile.load (machine.files.read config) = .ok file ∧
    settings = layered (chosen? environment arguments) file ∧ settings.validate = .ok () ∧
    servicesIn environment reading settings = .ok services

/-- The program does nothing and says so. -/
structure Idle (before : Machine) (ending : Ending) (after : Machine) : Prop where
  exitCode : ending.exitCode ≠ 0
  printed : ending.printed = ""
  after : after = before

/-- The last of what the program prints after a round. -/
def tally (report : Report) : String :=
  numeral report.sent ++ " sent.\n" ++
    if 0 < report.submitted then numeral report.submitted ++ " submitted.\n" else ""

/-- The program does what a round does. -/
structure Does (format : LogFormat) (filter : Filter) (before : Machine)
    (round : Except Failure Report × Machine) (ending : Ending) (after : Machine) : Prop where
  files : after.files = round.2.files
  wire : after.wire = round.2.wire
  /-- The events of the round are shown, as far as the filter admits them. -/
  lines : Shows before.lines format (filter.admits roundName) after.lines round.2.lines
  exitCode : ending.exitCode = 0 ↔ ∃ report, round.1 = .ok report
  printed : ∀ report, round.1 = .ok report → ∃ start, ending.printed = start ++ tally report
  silent : ∀ failure, round.1 = .error failure → ending.printed = ""

/-- The program does what a round does with the settings in force, or nothing. -/
structure Refines (verbose json : Bool) (before : Machine) (ending : Ending) (after : Machine) :
    Prop where
  idle :
    (∀ settings services,
      ¬InForce environment reading arguments config before settings services) →
      Idle before ending after
  does : ∀ settings services,
    InForce environment reading arguments config before settings services →
    Does (if json then .json else .text)
      (filterInForce (environment "RUST_LOG") (if verbose then .debug else .info)) before
      ((Round.run settings services).run before) ending after
  /-- Without a filter in the environment, all events are shown. -/
  unfiltered : environment "RUST_LOG" = none → ∀ event,
    (filterInForce (environment "RUST_LOG") (if verbose then .debug else .info)).admits roundName
      event = true

end

variable {environment : String → Option String} {reading : ListingReader}
  {arguments : List String} {config : String} {verbose json report : Bool}
  {overrides : List (Override × String)}

/-- The services that show some events are made as those that show every event are. -/
theorem madeAlike_servicesIn (environment : String → Option String) (reading : ListingReader)
    (settings : Settings) (start : Lines) (format : LogFormat) (filter : Filter) :
    MadeAlike (besides (Shows start format (filter.admits roundName)))
      (shownServicesIn environment reading format filter settings)
      (servicesIn environment reading settings) := by
  let path := settings.logPath (Machine.platform environment reading).home
  apply madeAlike_connect settings besides_transport
  · rfl
  · exact besides_read environment reading path
  · exact besides_replace environment reading path
  · exact besides_emit environment reading start format filter

/-- Settings that are not valid, or that no client can be made for, change nothing. -/
theorem runWithSettings_of_none {settings : Settings} (format : LogFormat) (filter : Filter)
    (machine : Machine)
    (none : settings.validate = .ok () →
      ∀ services, servicesIn environment reading settings ≠ .ok services) :
    ∃ cause,
      (runWithSettings (Machine.platform environment reading) format filter settings).run machine =
        (.error cause, machine) := by
  cases valid : settings.validate with
  | error cause =>
      rw [runWithSettings, valid]
      exact ⟨_, rfl⟩
  | ok =>
      have alike := madeAlike_servicesIn environment reading settings [] format filter
      have none := none valid
      generalize shown : shownServicesIn environment reading format filter settings = made at alike
      generalize servicesIn environment reading settings = all at alike none
      cases alike with
      | made serves => exact absurd rfl (none _)
      | failed cause =>
          rw [shownServicesIn] at shown
          simp only [runWithSettings, valid, shown]
          exact ⟨_, rfl⟩

/-- Settings in force are those of the round that is run. -/
theorem runWithSettings_of_services {settings : Settings} {services : Services MachineM}
    (format : LogFormat) (filter : Filter) (machine : Machine)
    (valid : settings.validate = .ok ())
    (made : servicesIn environment reading settings = .ok services) :
    ∃ after,
      (runWithSettings (Machine.platform environment reading) format filter settings).run machine =
        (((Round.run settings services).run machine).1.mapError .round, after) ∧
      SameBut (Shows machine.lines format (filter.admits roundName)) after
        ((Round.run settings services).run machine).2 := by
  have alike := madeAlike_servicesIn environment reading settings machine.lines format filter
  rw [made] at alike
  generalize shown : shownServicesIn environment reading format filter settings = result at alike
  cases alike with
  | @made others _ serves =>
      have start : SameBut (Shows machine.lines format (filter.admits roundName)) machine machine :=
        ⟨rfl, rfl, [], by simp, by simp⟩
      obtain ⟨answers, after⟩ := Simulation.run serves settings machine machine start
      rw [shownServicesIn] at shown
      simp only [runWithSettings, valid, shown]
      refine ⟨_, ?_, after⟩
      rw [← answers]
      rfl

/-- How the program ends when the answer of a round was this. -/
def endingOf (shown : Bool) : Except RunFailure Report → Ending
  | .ok report => .finished report shown
  | .error cause => .failed cause

/-- A command that asks for a round runs one. -/
theorem run_of_accepted (accepted : Command.ofArguments environment arguments =
      .ok (.round config verbose json report overrides)) {before after : Machine}
    {answer : Except RunFailure Report}
    (runs :
      (runRound (Machine.platform environment reading) config verbose json overrides).run before =
        (answer, after)) :
    (CommandLine.run (Machine.platform environment reading) arguments).run before =
      (endingOf report answer, after) := by
  have same : Command.ofArguments (Machine.platform environment reading).environment arguments =
      .ok (.round config verbose json report overrides) := accepted
  rw [CommandLine.run, same]
  simp only [StateT.run_bind, runs]
  cases answer with
  | ok result => rfl
  | error cause => rfl

/-- The settings are read first. -/
theorem runRound_of_error {cause : Failure} {before : Machine}
    (unread : SettingsFile.load (before.files.read config) = .error cause) :
    (runRound (Machine.platform environment reading) config verbose json overrides).run before =
      (.error (.settingsFile config cause), before) := by
  have read : ((Machine.platform environment reading).read config).run before =
      (before.files.read config, before) := rfl
  rw [runRound, StateT.run_bind, read]
  simp only [bind, unread]
  rfl

theorem runRound_of_ok {file : Settings} {before : Machine}
    (loaded : SettingsFile.load (before.files.read config) = .ok file) :
    (runRound (Machine.platform environment reading) config verbose json overrides).run before =
      (runWithSettings (Machine.platform environment reading) (if json then .json else .text)
        ((Machine.platform environment reading).filter verbose) (applyOverrides file overrides)).run
        before := by
  have read : ((Machine.platform environment reading).read config).run before =
      (before.files.read config, before) := rfl
  rw [runRound, StateT.run_bind, read]
  simp only [bind, loaded]

/-- After a failure the program prints nothing. -/
theorem idle_of_failed (cause : RunFailure) (machine : Machine) :
    Idle machine (.failed cause) machine where
  exitCode := by simp [Ending.exitCode]
  printed := rfl
  after := rfl

/-- What is printed after a round ends with its tally. -/
theorem printed_finished (result : Report) (shown : Bool) :
    ∃ start, (Ending.finished result shown).printed = start ++ tally result := by
  cases shown with
  | true => exact ⟨_, rfl⟩
  | false => exact ⟨"", by simp [Ending.printed, Ending.report?, Ending.output, tally]⟩

/-- After a round the program ends as its answer says. -/
theorem does_of_runWithSettings {format : LogFormat} {filter : Filter} {before after : Machine}
    {round : Except Failure Report × Machine} (shown : Bool)
    (same : SameBut (Shows before.lines format (filter.admits roundName)) after round.2) :
    Does format filter before round (endingOf shown (round.1.mapError .round)) after := by
  obtain ⟨answer, last⟩ := round
  cases answer with
  | ok result =>
      refine ⟨same.files, same.wire, same.lines, ?_, ?_, ?_⟩
      · exact ⟨fun _ => ⟨result, rfl⟩, fun _ => rfl⟩
      · rintro _ ⟨⟩
        exact printed_finished result shown
      · rintro failure ⟨⟩
  | error failure =>
      refine ⟨same.files, same.wire, same.lines, ?_, ?_, ?_⟩
      · simp [endingOf, Except.mapError, Ending.exitCode]
      · rintro result ⟨⟩
      · intro _ _
        rfl

/-- The program runs a round with the settings in force, however listings are read. -/
theorem run_refines (reading : ListingReader)
    (accepted : Command.ofArguments environment arguments =
      .ok (.round config verbose json report overrides)) (before : Machine) :
    let ended := (CommandLine.run (Machine.platform environment reading) arguments).run before
    Refines environment reading arguments config verbose json before ended.1 ended.2 := by
  intro ended
  let format : LogFormat := if json then .json else .text
  let filter := filterInForce (environment "RUST_LOG") (if verbose then .debug else .info)
  have unfiltered : environment "RUST_LOG" = none →
      ∀ event, filter.admits roundName event = true := by
    intro unset event
    simp only [filter, unset]
    exact admits_of_default (by cases verbose <;> simp) roundName event
  cases loaded : SettingsFile.load (before.files.read config) with
  | error cause =>
      simp only [ended, run_of_accepted accepted (runRound_of_error loaded)]
      refine ⟨fun _ => idle_of_failed _ before, ?_, unfiltered⟩
      rintro settings services ⟨file, other, -⟩
      rw [loaded] at other
      cases other
  | ok file =>
      let settings := layered (chosen? environment arguments) file
      have runs :
          (runRound (Machine.platform environment reading) config verbose json overrides).run
              before =
            (runWithSettings (Machine.platform environment reading) format filter settings).run
              before := by
        rw [runRound_of_ok loaded, applyOverrides_of_ofArguments accepted]
        rfl
      -- The settings in force are those of this file only.
      have only : ∀ other services,
          InForce environment reading arguments config before other services →
            other = settings ∧ settings.validate = .ok () ∧
              servicesIn environment reading settings = .ok services := by
        rintro _ services ⟨otherFile, otherLoaded, rfl, valid, made⟩
        obtain rfl := Except.ok.inj (loaded.symm.trans otherLoaded)
        exact ⟨rfl, valid, made⟩
      by_cases inForce :
          ∃ services, InForce environment reading arguments config before settings services
      · obtain ⟨services, inForce⟩ := inForce
        obtain ⟨-, valid, made⟩ := only settings services inForce
        obtain ⟨after, ran, same⟩ := runWithSettings_of_services format filter before valid made
        simp only [ended, run_of_accepted accepted (runs.trans ran)]
        refine ⟨fun none => absurd inForce (none settings services), ?_, unfiltered⟩
        intro other otherServices otherInForce
        obtain ⟨rfl, -, otherMade⟩ := only other otherServices otherInForce
        obtain rfl := Except.ok.inj (made.symm.trans otherMade)
        exact does_of_runWithSettings report same
      · obtain ⟨cause, ran⟩ := runWithSettings_of_none format filter before
          fun valid services made => inForce ⟨services, file, loaded, rfl, valid, made⟩
        simp only [ended, run_of_accepted accepted (runs.trans ran)]
        refine ⟨fun _ => idle_of_failed cause before, ?_, unfiltered⟩
        intro other services otherInForce
        obtain ⟨rfl, -, -⟩ := only other services otherInForce
        exact absurd ⟨services, otherInForce⟩ inForce

/-- The file that is read when none is named lies in the folder where paths start. -/
theorem read_defaultConfig {files : Files} {content : ByteArray}
    (found : files[defaultConfig]? = some content) : files.read defaultConfig = .ok content := by
  have noError : pathError? defaultConfig = none := by decide +kernel
  have relative : originOf defaultConfig = homeSteps := by decide +kernel
  have steps : pathSteps defaultConfig = [defaultConfig] := by decide +kernel
  have home : files.entry homeSteps = .folder := by
    rw [Files.entry, if_pos (by decide +kernel)]
  have walked :
      files.walk false homeSteps [defaultConfig] = .ok (homeSteps ++ [defaultConfig]) := by
    simp [Files.walk, home]
    decide +kernel
  have below : files.entry (homeSteps ++ [defaultConfig]) = .file content := by
    have key : Files.keyOf (homeSteps ++ [defaultConfig]) = defaultConfig := by decide +kernel
    rw [Files.entry, if_neg (by decide +kernel), key]
    simp only [found]
  rw [Files.read, noError, relative, steps]
  simp only [walked, bind, Except.bind, below]

/-- Services can be made where the addresses of both servers can be read. -/
theorem exists_servicesIn (environment : String → Option String) (reading : ListingReader)
    {settings : Settings}
    {review ci : Url}
    (reviewRead : Url.parse? (String.ofList (trim settings.review.host.toList)) = some review)
    (ciRead : Url.parse? (String.ofList (trim settings.ci.host.toList)) = some ci)
    (dispatches : isBlankText settings.ci.host = false) :
    ∃ services, servicesIn environment reading settings = .ok services := by
  simp only [servicesIn, connect, reviewOfSettings, ciOfSettings, ciUrl?, serverUrl, reviewRead,
    ciRead, dispatches]
  exact ⟨_, rfl⟩

/-- A machine with a file of settings. -/
def configured (text : String) : Machine :=
  { files := .ofList [(defaultConfig, text.toUTF8)] }

theorem load_configured {text : String} {file : Settings}
    (parsed : (Toml.parse? text).bind SettingsFile.ofEntries = some file) :
    SettingsFile.load ((configured text).files.read defaultConfig) = .ok file := by
  have found : (configured text).files[defaultConfig]? = some text.toUTF8 := by
    rw [configured, Std.ExtTreeMap.ofList_singleton]
    exact Std.ExtTreeMap.getElem?_insert_self
  rw [read_defaultConfig found, SettingsFile.load, fromUTF8?_toUTF8]
  simp only [SettingsFile.parse, parsed]

/-- A flag makes settings invalid that are valid in the file, and another one settings valid that
are not. -/
theorem run_refines_of_blank_job :
    let platform := Machine.platform fun _ => none
    let valid := configured "[gerrit]\nhost='http://review'\n[jenkins]\nhost='http://ci'"
    let stopped := (CommandLine.run platform ["query", "--jenkins-job= "]).run valid
    let blank := configured "[gerrit]\nhost='http://review'\n[jenkins]\nhost='http://ci'\njob=''"
    let ran := (CommandLine.run platform ["query", "--jenkins-job", "tests"]).run blank
    Idle valid stopped.1 stopped.2 ∧
      ∃ (settings : Settings) (services : Services MachineM), settings.ci.job = "tests" ∧
        Does .text (filterInForce none .info) blank ((Round.run settings services).run blank)
          ran.1 ran.2 := by
  intro platform valid stopped blank ran
  have stops : Command.ofArguments (fun _ => none) ["query", "--jenkins-job= "] =
      .ok (.round defaultConfig false false false [(.ciJob, " ")]) := rfl
  have runs : Command.ofArguments (fun _ => none) ["query", "--jenkins-job", "tests"] =
      .ok (.round defaultConfig false false false [(.ciJob, "tests")]) := rfl
  let file (job : String) : Settings :=
    { review := { host := "http://review" }, ci := { host := "http://ci", job } }
  have validLoads : SettingsFile.load (valid.files.read defaultConfig) =
      .ok (file "presubmit-test") := load_configured (by decide +kernel)
  have blankLoads : SettingsFile.load (blank.files.read defaultConfig) = .ok (file "") :=
    load_configured (by decide +kernel)
  constructor
  · apply (run_refines parseListing stops valid).idle
    rintro _ services ⟨loaded, loads, rfl, isValid, -⟩
    obtain rfl := Except.ok.inj (validLoads.symm.trans loads)
    have refused : (layered (chosen? (fun _ => none) ["query", "--jenkins-job= "])
        (file "presubmit-test")).validate.toOption = none := by decide +kernel
    rw [isValid] at refused
    cases refused
  · have settings :
        layered (chosen? (fun _ => none) ["query", "--jenkins-job", "tests"]) (file "") =
          file "tests" := by decide +kernel
    have isValid : (file "tests").validate = .ok () := by
      rw [Settings.validate, if_neg (by decide +kernel), if_neg (by decide +kernel),
        if_neg (by decide +kernel)]
    have review : Url.parse? (String.ofList (trim (file "tests").review.host.toList)) =
        some { scheme := "http", host := some "review", path := [""] } := by decide +kernel
    have ci : Url.parse? (String.ofList (trim (file "tests").ci.host.toList)) =
        some { scheme := "http", host := some "ci", path := [""] } := by decide +kernel
    have dispatches : isBlankText (file "tests").ci.host = false := by decide +kernel
    obtain ⟨services, made⟩ :=
      exists_servicesIn (fun _ => none) parseListing review ci dispatches
    have inForce : InForce (fun _ => none) parseListing ["query", "--jenkins-job", "tests"]
        defaultConfig blank (file "tests") services :=
      ⟨file "", blankLoads, settings.symm, isValid, made⟩
    exact ⟨_, services, rfl, (run_refines parseListing runs blank).does _ services inForce⟩

end ChangeGate.Memory
