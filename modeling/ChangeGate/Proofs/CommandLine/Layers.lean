import ChangeGate.CommandLine.Run
import ChangeGate.Proofs.CommandLine.Flags

/-!
# Layers of settings

Where the arguments ask for a round, each setting that can be overridden is the one that the
arguments give, or else the environment, or else the file. The other settings are those of the file.
-/

namespace ChangeGate.CommandLine

/-! ## Three layers -/

/-- What the arguments give in the place of a setting, or else the environment. -/
def chosen? (environment : String → Option String) (arguments : List String)
    (override : Override) : Option String :=
  (flag? override.option.name arguments).or (fromEnvironment environment override.option)

/-- The settings of a file with what is chosen in the place of some of them. -/
def layered (choice : Override → Option String) (file : Settings) : Settings :=
  { file with
    review :=
      { file.review with
        query := (choice .query).getD file.review.query
        user := (choice .reviewUser).or file.review.user
        password := (choice .reviewPassword).or file.review.password }
    ci :=
      { host := (choice .ciHost).getD file.ci.host
        job := (choice .ciJob).getD file.ci.job
        user := (choice .ciUser).or file.ci.user
        token := (choice .ciToken).or file.ci.token }
    gate := { file.gate with logFile := (choice .logFile).getD file.gate.logFile } }

/-- Carry out a single override, if there is one. -/
def Override.layer (choice : Override → Option String) (settings : Settings)
    (override : Override) : Settings :=
  match choice override with
  | none => settings
  | some value => override.apply settings value

/-- Overrides are carried out one after another. -/
theorem applyOverrides_filterMap (choice : Override → Option String) (settings : Settings)
    (overrides : List Override) :
    applyOverrides settings
        (overrides.filterMap fun override => (choice override).map (override, ·)) =
      overrides.foldl (Override.layer choice) settings := by
  induction overrides generalizing settings with
  | nil => rfl
  | cons override rest inductionHypothesis =>
      rw [List.foldl_cons, List.filterMap_cons, ← inductionHypothesis, Override.layer]
      cases choice override with
      | none => rfl
      | some value => rfl

/-- A single override puts what is chosen in the place of its setting. -/
theorem layer_eq (choice : Override → Option String) (settings : Settings) (override : Override) :
    override.layer choice settings =
      layered (fun other => if other = override then choice other else none) settings := by
  rw [Override.layer]
  cases chosen : choice override with
  | none => cases override <;> simp [layered, chosen]
  | some value => cases override <;> simp [layered, chosen, Override.apply]

theorem foldl_layer_all (choice : Override → Option String) (file : Settings) :
    Override.all.foldl (Override.layer choice) file = layered choice file := by
  simp only [Override.all, List.foldl_cons, List.foldl_nil, layer_eq]
  simp [layered]

/-! ## What is asked for -/

/-- After the name of the command, an override is known by its long name. -/
theorem isTold_override (override : Override) : IsTold queryOptions override.option where
  letter := by cases override <;> rfl
  takesValue := by cases override <;> rfl
  present := by cases override <;> decide
  noEquals := by cases override <;> decide
  alone := by cases override <;> decide

/-- Before the name of the command, no override is known. -/
theorem override_absent (override : Override) :
    ∀ option ∈ leadingOptions, option.name ≠ override.option.name := by
  cases override <;> decide

variable {environment : String → Option String} {arguments : List String} {config : String}
  {verbose json report : Bool} {overrides : List (Override × String)}

/-- What is followed at once is no round. -/
theorem not_round_of_scan {known : List OptionName} {wanted : OptionName} {command : Command}
    (told : IsTold known wanted) {scanned : List String}
    (early : scan known (.options []) scanned = .ok (.inr command)) :
    command ≠ .round config verbose json report overrides := by
  have isEarly := (scans_of_scan early).early rfl told fun _ atOnce => by cases atOnce
  rintro rfl
  rcases isEarly with help | version
  · cases help
  · cases version

/-- The overrides of a round come from the arguments after the name of the command, or else from the
environment. -/
theorem overrides_of_readQuery {leading : Given}
    (read : readQuery environment leading arguments =
      .ok (.round config verbose json report overrides)) :
    overrides = Override.all.filterMap fun override =>
      (chosen? environment arguments override).map (override, ·) := by
  rw [readQuery] at read
  split at read
  · cases read
  · next command scanned =>
      exact absurd (Except.ok.inj read) (not_round_of_scan (isTold_override .query) scanned)
  · cases read
  · next own scanned =>
      have values : ∀ override : Override, own.value? override.option =
          flag? override.option.name arguments :=
        fun override => (scans_of_scan scanned).settles rfl (isTold_override override)
      cases ownConfig : checkEnvironment environment own configOption with
      | error cause =>
          rw [ownConfig] at read
          cases read
      | ok =>
          cases leadingConfig : checkEnvironment environment leading configOption with
          | error cause =>
              rw [ownConfig, leadingConfig] at read
              cases read
          | ok =>
              rw [ownConfig, leadingConfig] at read
              have command : roundCommand environment leading own =
                  .round config verbose json report overrides := Except.ok.inj read
              simp only [roundCommand, values] at command
              exact (Command.round.inj command).2.2.2.2.symm

/-- The overrides of a round are what is chosen. -/
theorem overrides_of_ofArguments
    (accepted : Command.ofArguments environment arguments =
      .ok (.round config verbose json report overrides)) :
    overrides = Override.all.filterMap fun override =>
      (chosen? environment arguments override).map (override, ·) := by
  rw [Command.ofArguments] at accepted
  split at accepted
  · cases accepted
  · next command scanned =>
      have told : IsTold leadingOptions Override.query.option :=
        { isTold_override .query with
          alone := fun option known same => absurd same (override_absent .query option known) }
      exact absurd (Except.ok.inj accepted) (not_round_of_scan told scanned)
  · cases accepted
  · next leading command rest scanned =>
      split at accepted
      · next named =>
          subst named
          -- Neither the options before the name of the command nor the name say anything of overrides.
          have same : ∀ override : Override, flag? override.option.name arguments =
              flag? override.option.name rest := by
            intro override
            have told := isTold_override override
            rw [(scans_of_scan scanned).flag?_of_absent rfl told.noEquals told.present
              (override_absent override)]
            exact flag?_cons_of_isSilent (isSilent_of_isValue (by decide)) rest
          rw [overrides_of_readQuery accepted]
          simp only [chosen?, same]
      · split at accepted
        · rw [readHelp.eq_def] at accepted
          split at accepted
          · cases accepted
          · split at accepted <;> cases accepted
          · cases accepted
        · cases accepted

/-- The settings of a round are layered. -/
theorem applyOverrides_of_ofArguments
    (accepted : Command.ofArguments environment arguments =
      .ok (.round config verbose json report overrides)) (file : Settings) :
    applyOverrides file overrides = layered (chosen? environment arguments) file := by
  rw [overrides_of_ofArguments accepted, applyOverrides_filterMap, foldl_layer_all]

end ChangeGate.CommandLine
