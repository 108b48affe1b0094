import ChangeGate.CommandLine.Options

/-!
# Arguments

What the arguments and the environment ask for. Options come before or after the name of the
command; each may be given once in each of the two places, and for an option that both places
know the later place counts. What an argument does not say the environment may say.
-/

namespace ChangeGate.CommandLine

/-- Why the arguments cannot be followed. -/
inductive UsageError where
  | unknown (argument : String)
  | missingValue (option : String)
  | emptyValue (option : String)
  | unexpectedValue (option : String)
  | repeated (option : String)
  | noCommand
  deriving DecidableEq, Repr, Inhabited

/-- The wording of a usage error. -/
def UsageError.message : UsageError → String
  | .unknown argument => "unexpected argument '" ++ argument ++ "'"
  | .missingValue option => "a value is required for '--" ++ option ++ "'"
  | .emptyValue option => "the value for '--" ++ option ++ "' is empty"
  | .unexpectedValue option => "unexpected value for '--" ++ option ++ "'"
  | .repeated option => "the argument '--" ++ option ++ "' cannot be used multiple times"
  | .noCommand => "a command is required"

/-- Options given in one place, with their values; a flag has the empty value. -/
abbrev Given := List (String × String)

/-- What a run of the program is asked for. -/
inductive Command where
  | showHelp
  | showVersion
  /-- Run a round with the settings of a file, some of them overridden. -/
  | round (config : String) (verbose json report : Bool) (overrides : List (Override × String))
  deriving DecidableEq, Repr, Inhabited

/-- How far the reading of some arguments has come. -/
inductive Reading where
  /-- Options were given. -/
  | options (given : Given)
  /-- The value of an option is still to come. -/
  | waiting (given : Given) (option : OptionName)
  /-- A command is followed at once, whatever else is asked for. -/
  | atOnce (command : Command)
  deriving Repr

/-- Note an option with its value. -/
def note (given : Given) (option : OptionName) (value : String) : Except UsageError Reading :=
  if option = helpOption then .ok (.atOnce .showHelp)
  else if option = versionOption then .ok (.atOnce .showVersion)
  else if given.any (·.1 = option.name) then .error (.repeated option.name)
  else if option.needsText && value.isEmpty then .error (.emptyValue option.name)
  else .ok (.options (given ++ [(option.name, value)]))

/-- An argument that starts with a hyphen is no value, unless it is the hyphen alone. -/
def isValue (argument : List Char) : Bool :=
  argument.head? ≠ some '-' || argument = ['-']

/-- Read an argument of letters: flags, and perhaps a last option, whose value may follow. -/
def readLetters (known : List OptionName) (given : Given) : List Char → Except UsageError Reading
  | [] => .ok (.options given)
  | letter :: rest =>
      match known.find? (·.letter = some letter) with
      | none => .error (.unknown (String.ofList ['-', letter]))
      | some option =>
          if option.takesValue then
            match rest with
            | [] => .ok (.waiting given option)
            | '=' :: value => note given option (String.ofList value)
            | value => note given option (String.ofList value)
          else
            match note given option "" with
            | .ok (.options given) => readLetters known given rest
            | other => other

/-- Read an argument with a long name, whose value may follow. -/
def readLong (known : List OptionName) (given : Given) (argument : List Char) :
    Except UsageError Reading :=
  let name := argument.takeWhile (· ≠ '=')
  match known.find? (·.name.toList = name) with
  | none => .error (.unknown (String.ofList ('-' :: '-' :: argument)))
  | some option =>
      match option.takesValue, argument.drop name.length with
      | true, '=' :: value => note given option (String.ofList value)
      | true, _ => .ok (.waiting given option)
      | false, [] => note given option ""
      | false, _ => .error (.unexpectedValue option.name)

/-- Read an argument that starts with a hyphen. -/
def readOption (known : List OptionName) (given : Given) :
    List Char → Except UsageError Reading
  | '-' :: '-' :: argument => readLong known given argument
  | argument => readLetters known given (argument.drop 1)

/-- What one place of the arguments comes to: its options and the arguments after them, or a
command that is followed at once. -/
abbrev Scanned := (Given × List String) ⊕ Command

/-- Read the options of one place, up to the first argument that is none. Two hyphens end them
for good. -/
def scan (known : List OptionName) : Reading → List String → Except UsageError Scanned
  | .atOnce command, _ => .ok (.inr command)
  | .options given, [] => .ok (.inl (given, []))
  | .waiting _ option, [] => .error (.missingValue option.name)
  | .waiting given option, value :: rest =>
      if isValue value.toList then do scan known (← note given option value) rest
      else .error (.missingValue option.name)
  | .options given, argument :: rest =>
      if isValue argument.toList then .ok (.inl (given, argument :: rest))
      else if argument = "--" then
        match rest with
        | [] => .ok (.inl (given, []))
        | extra :: _ => .error (.unknown extra)
      else do scan known (← readOption known given argument.toList) rest

/-- The value of an option in one place. -/
def Given.value? (given : Given) (option : OptionName) : Option String :=
  (given.find? (·.1 = option.name)).map (·.2)

/-- An option is given in one place. -/
def Given.has (given : Given) (option : OptionName) : Bool :=
  (given.value? option).isSome

/-- What the environment says for an option. -/
def fromEnvironment (environment : String → Option String) (option : OptionName) :
    Option String :=
  option.environmentName.bind environment

/-- What the environment says in one place. An empty text is refused where a text is needed. -/
def checkEnvironment (environment : String → Option String) (given : Given)
    (option : OptionName) : Except UsageError Unit :=
  if option.needsText && !given.has option && fromEnvironment environment option = some "" then
    .error (.emptyValue option.name)
  else .ok ()

/-- The file that settings are read from when none is named. -/
def defaultConfig : String := "presubmit.toml"

/-- The command to run a round from the options before and after the name of the command. -/
def roundCommand (environment : String → Option String) (leading own : Given) : Command :=
  let config := (own.value? configOption).or <| (leading.value? configOption).or <|
    fromEnvironment environment configOption
  let overrides := Override.all.filterMap fun override =>
    ((own.value? override.option).or (fromEnvironment environment override.option)).map
      (override, ·)
  .round (config.getD defaultConfig) (leading.has verboseOption || own.has verboseOption)
    (leading.has jsonOption || own.has jsonOption) (own.has reportOption) overrides

/-- Read the arguments of the command. -/
def readQuery (environment : String → Option String) (leading : Given)
    (arguments : List String) : Except UsageError Command :=
  match scan queryOptions (.options []) arguments with
  | .error cause => .error cause
  | .ok (.inr command) => .ok command
  | .ok (.inl (_, extra :: _)) => .error (.unknown extra)
  | .ok (.inl (own, [])) => do
      checkEnvironment environment own configOption
      checkEnvironment environment leading configOption
      pure (roundCommand environment leading own)

/-- Read the arguments of the command that asks for help, which may name another command. -/
def readHelp : List String → Except UsageError Command
  | [] => .ok .showHelp
  | [command] =>
      if command = "query" || command = "help" then .ok .showHelp else .error (.unknown command)
  | _ :: extra :: _ => .error (.unknown extra)

/-- Read the arguments of the program. -/
def Command.ofArguments (environment : String → Option String) (arguments : List String) :
    Except UsageError Command :=
  match scan leadingOptions (.options []) arguments with
  | .error cause => .error cause
  | .ok (.inr command) => .ok command
  | .ok (.inl (_, [])) => .error .noCommand
  | .ok (.inl (leading, command :: rest)) =>
      if command = "query" then readQuery environment leading rest
      else if command = "help" then readHelp rest
      else .error (.unknown command)

end ChangeGate.CommandLine
