import LightShow.Settings.App

/-!
The command line. Options are read from left to right; the first thing that is wrong decides, unless
help or the version is asked for before it.
-/

set_option autoImplicit false

namespace LightShow

structure Options where
  config : Option String := none
  lightMap : Option String := none
  wave : Option String := none
  logLevel : Option String := none
  effect : Option EffectKind := none
  dryRun : Bool := false
  printConfig : Bool := false
  deriving DecidableEq, Repr

/-- The options that take a value. -/
inductive ValueOption where
  | config
  | lightMap
  | wave
  | logLevel
  | effect
  deriving DecidableEq, Repr

def ValueOption.name : ValueOption → String
  | .config => "--config"
  | .lightMap => "--light-map"
  | .wave => "--wav"
  | .logLevel => "--log-level"
  | .effect => "--effect"

inductive UsageError where
  | unexpected (argument : String)
  | repeated (option : String)
  | missingValue (option : String)
  | badValue (option value : String)
  | flagValue (option : String)
  /-- There is no sound to play. -/
  | missingWave
  deriving DecidableEq, Repr

def UsageError.message : UsageError → String
  | .unexpected argument => s!"error: unexpected argument '{argument}' found"
  | .repeated option => s!"error: the argument '{option}' cannot be used multiple times"
  | .missingValue option => s!"error: a value is required for '{option}' but none was supplied"
  | .badValue option value => s!"error: invalid value '{value}' for '{option}'"
  | .flagValue option => s!"error: unexpected value for '{option}' found; no more were expected"
  | .missingWave => "error: the following required arguments were not provided: --wav <WAV>"

/-- What the program is asked to do. -/
inductive Invocation where
  /-- Help, in full or as a summary. -/
  | help (full : Bool)
  | version
  | play (options : Options)
  deriving DecidableEq, Repr

namespace Options

/-- Gives an option its value. A path must not be empty. -/
def set (options : Options) (option : ValueOption) (value : String) :
    Except UsageError Options :=
  let path (old : Option String) (updated : Options) : Except UsageError Options :=
    if value.isEmpty then .error (.missingValue option.name)
    else if old.isSome then .error (.repeated option.name)
    else .ok updated
  match option with
  | .config => path options.config { options with config := some value }
  | .lightMap => path options.lightMap { options with lightMap := some value }
  | .wave => path options.wave { options with wave := some value }
  | .logLevel =>
    if options.logLevel.isSome then .error (.repeated option.name)
    else .ok { options with logLevel := some value }
  | .effect =>
    if options.effect.isSome then .error (.repeated option.name)
    else
      match EffectKind.ofName? value with
      | some kind => .ok { options with effect := some kind }
      | none => .error (.badValue option.name value)

/-- What is checked after the last argument. -/
def finish (options : Options) : Except UsageError Invocation :=
  if options.wave.isNone && !options.printConfig then .error .missingWave else .ok (.play options)

/-- The settings as the options change them. -/
def apply (options : Options) (settings : AppSettings) : AppSettings :=
  { settings with
    lightMap := options.lightMap.getD settings.lightMap
    effect := options.effect.getD settings.effect
    log := { settings.log with level := options.logLevel.getD settings.log.level } }

end Options

namespace Invocation

/-- An option with a value in the same argument, which an equals sign may set off. -/
def attached? (argument : String) : Option (ValueOption × String) :=
  let long := [ValueOption.config, .lightMap, .wave, .logLevel, .effect].findSome? fun option =>
    if argument.startsWith (option.name ++ "=") then
      some (option, String.ofList (argument.toList.drop (option.name.length + 1)))
    else none
  match long with
  | some found => some found
  | none =>
    match argument.toList with
    | '-' :: 'c' :: '=' :: value => some (.config, String.ofList value)
    | '-' :: 'c' :: c :: value => some (.config, String.ofList (c :: value))
    | _ => none

/-- An option whose value is the next argument. -/
def detached? (argument : String) : Option ValueOption :=
  if argument = "-c" then some .config
  else [ValueOption.config, .lightMap, .wave, .logLevel, .effect].find? fun option =>
    option.name = argument

/-- Whether an argument can be a value: an option cannot, but a lone dash can. -/
def isValue (argument : String) : Bool :=
  !argument.startsWith "-" || argument = "-"

/-- Whether help or the version is asked for, possibly with more letters behind. -/
def immediate? (argument : String) : Option Invocation :=
  if argument = "--help" then some (.help true)
  else if argument = "--version" then some .version
  else
    match argument.toList with
    | '-' :: 'h' :: _ => some (.help false)
    | '-' :: 'V' :: _ => some .version
    | _ => none

/-- Reads the arguments after those that set the options so far. -/
def readFrom (options : Options) : List String → Except UsageError Invocation
  | [] => options.finish
  | argument :: rest =>
    match immediate? argument with
    | some invocation => .ok invocation
    | none =>
      if argument = "--dry-run" then
        if options.dryRun then .error (.repeated argument)
        else readFrom { options with dryRun := true } rest
      else if argument = "--print-config" then
        if options.printConfig then .error (.repeated argument)
        else readFrom { options with printConfig := true } rest
      else if argument = "--" then
        match rest with
        | [] => options.finish
        | extra :: _ => .error (.unexpected extra)
      else
        match attached? argument with
        | some (option, value) => do readFrom (← options.set option value) rest
        | none =>
          match detached? argument with
          | some option =>
            match rest with
            | [] => .error (.missingValue option.name)
            | value :: rest =>
              if isValue value then do readFrom (← options.set option value) rest
              else .error (.missingValue option.name)
          | none =>
            if argument.startsWith "--dry-run=" || argument.startsWith "--print-config=" then
              .error (.flagValue argument)
            else .error (.unexpected argument)

/-- Reads a command line. -/
def read (arguments : List String) : Except UsageError Invocation :=
  readFrom {} arguments

/-- The version as it is printed. -/
def versionText : String := "beatlight 0.2.0\n"

/-- What the help says about each option: its forms, what it does, and its possible values. -/
def optionHelp (full : Bool) : List (String × String × List (String × String)) :=
  [("  -c, --config <CONFIG>", "Configuration file (TOML)", []),
    ("      --light-map <LIGHT_MAP>", "Light map JSON, overrides the config file", []),
    ("      --wav <WAV>", "16-bit PCM WAV file to play", []),
    ("      --log-level <LOG_LEVEL>", "Log level (trace, debug, info, warn, error)", []),
    ("      --effect <EFFECT>", "Effect to run, overrides the config file",
      [("pulse", "Flash on every beat, fade in between"),
        ("energy", "Brightness follows energy, hue follows pitch")]),
    ("      --dry-run", "Log light updates instead of sending them", []),
    ("      --print-config", "Print the effective configuration as TOML and exit", []),
    ("  -h, --help",
      if full then "Print help (see a summary with '-h')"
      else "Print help (see more with '--help')", []),
    ("  -V, --version", "Print version", [])]

/-- A text followed by blanks up to a width. -/
def padded (width : Nat) (text : String) : String :=
  text ++ String.ofList (List.replicate (width - text.length) ' ')

/-- The help on an option in a table with two columns. -/
def summaryEntry (forms purpose : String) (values : List (String × String)) : String :=
  let choices := if values.isEmpty then ""
    else " [possible values: " ++ ", ".intercalate (values.map Prod.fst) ++ "]"
  padded 31 forms ++ purpose ++ choices ++ "\n"

/-- The help on an option in a paragraph of its own. -/
def fullEntry (forms purpose : String) (values : List (String × String)) : String :=
  let value (name meaning : String) : String :=
    "          - " ++ padded 8 (name ++ ":") ++ meaning ++ "\n"
  let choices := if values.isEmpty then ""
    else "\n          Possible values:\n" ++ String.join (values.map fun v => value v.1 v.2)
  forms ++ "\n          " ++ purpose ++ "\n" ++ choices

/-- The help as it is printed. -/
def helpText (full : Bool) : String :=
  let entries := (optionHelp full).map fun (forms, purpose, values) =>
    if full then fullEntry forms purpose values else summaryEntry forms purpose values
  "Drive lights from the beat of an audio stream\n\nUsage: beatlight [OPTIONS]\n\nOptions:\n"
    ++ (if full then "\n" else "").intercalate entries

end Invocation

end LightShow
