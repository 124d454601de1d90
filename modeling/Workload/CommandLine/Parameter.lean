import Workload.Engine
import Workload.Environment.Override
import Workload.Image
import Workload.Log.Settings
import Workload.Port.Override
import Workload.Text.Terminal

/-!
# Options of the command line and their values

An option that takes a value is a parameter. Its value is read as soon as it is complete, so that an
error about it names the option and the text that was given.
-/

namespace Workload.CommandLine

/-- An option that takes a value. -/
inductive Parameter where
  | logForm
  | logLevel
  | engine
  | workload
  | environment
  | application
  | portOverride
  | variableOverride
  | image
  | definition
  | pauseImage
deriving Repr, DecidableEq

namespace Parameter

/-- The options that are known before and after the subcommand. -/
def shared : List Parameter := [.logForm, .logLevel, .engine]

/-- The options that a run cannot do without, in the order in which they are reported. -/
def needed : List Parameter := [.workload, .environment, .application]

/-- The options of a run. -/
def ofRun : List Parameter :=
  needed ++ [.portOverride, .variableOverride, .image, .definition, .pauseImage] ++ shared

/-- The long name of an option. -/
def name : Parameter → String
  | .logForm => "log-format"
  | .logLevel => "log-level"
  | .engine => "runtime"
  | .workload => "workload"
  | .environment => "env"
  | .application => "app"
  | .portOverride => "port-override"
  | .variableOverride => "env-var-override"
  | .image => "image"
  | .definition => "task-definition"
  | .pauseImage => "pause-image"

/-- The letter that is short for an option. -/
def letter? : Parameter → Option Char
  | .workload => some 'n'
  | .environment => some 'e'
  | .application => some 'a'
  | _ => none

/-- What stands for the value of an option in messages. -/
def placeholder : Parameter → String
  | .logForm => "LOG_FORMAT"
  | .logLevel => "LOG_LEVEL"
  | .engine => "RUNTIME"
  | .workload => "NAME"
  | .environment => "NAME"
  | .application => "NAME"
  | .portOverride => "CONTAINER_PORT:HOST_PORT"
  | .variableOverride => "[CONTAINER:]KEY=VALUE"
  | .image => "NAME=URI"
  | .definition => "PATH"
  | .pauseImage => "IMAGE"

/-- An option with its value as messages show it. -/
def shown (parameter : Parameter) : String :=
  "--" ++ parameter.name ++ " <" ++ parameter.placeholder ++ ">"

/-- Whether an option may be given more than once. -/
def isRepeatable : Parameter → Bool
  | .portOverride => true
  | .variableOverride => true
  | .image => true
  | _ => false

/-- The values that an option accepts, if there is a fixed choice. -/
def choices : Parameter → List String
  | .logForm => ["text", Log.jsonName]
  | .logLevel => Log.Level.all.map Log.Level.word
  | .engine => [Engine.docker.name, Engine.podman.name]
  | _ => []

end Parameter

/-- An option with the value that was read for it. -/
inductive Setting where
  | logForm (name : String)
  | logLevel (level : Log.Level)
  | engine (engine : Engine)
  | workload (name : String)
  | environment (name : String)
  | application (name : String)
  | portOverride (override : Port.Override)
  | variableOverride (override : Environment.Override)
  | image (name uri : String)
  | definition (path : String)
  | pauseImage (image : String)
deriving Repr, DecidableEq

/-- The option of a setting. -/
def Setting.parameter : Setting → Parameter
  | .logForm _ => .logForm
  | .logLevel _ => .logLevel
  | .engine _ => .engine
  | .workload _ => .workload
  | .environment _ => .environment
  | .application _ => .application
  | .portOverride _ => .portOverride
  | .variableOverride _ => .variableOverride
  | .image _ _ => .image
  | .definition _ => .definition
  | .pauseImage _ => .pauseImage

/-- What is wrong with a command line. -/
inductive UsageError where
  | unknownArgument (shown : String)
  | unknownSubcommand (name : String)
  | missing (parameters : List Parameter)
  | valueMissing (parameter : Parameter)
  | notAChoice (value : String) (parameter : Parameter)
  | invalidValue (value : String) (parameter : Parameter) (cause : InputError)
  | repeated (parameter : Parameter)
  | valueNotTaken (value flag : String)
  | subcommandMissing
  /-- Nothing was given at all. -/
  | nothingGiven
deriving Repr, DecidableEq

/-- The line that lists the values an option accepts; none if there is no fixed choice. -/
def choicesLine (parameter : Parameter) : String :=
  if parameter.choices.isEmpty then ""
  else "\n  [possible values: " ++ ", ".intercalate parameter.choices ++ "]"

/-- What the program does, in one line. -/
def summary : String := "Run deployed container workloads locally"

/-- The name of the program. -/
def programName : String := "localrun"

/-- The version of the program. -/
def version : String := "0.1.0"

/-- The names of the subcommands. -/
def subcommands : List String := ["run", "help"]

/-- A text from the command line as messages quote it. -/
def cited (text : String) : String := "'" ++ Text.withoutControl text ++ "'"

/-- The first part of the message about a wrong command line, without advice on usage. -/
def UsageError.message : UsageError → String
  | .unknownArgument shown => "error: unexpected argument " ++ cited shown ++ " found"
  | .unknownSubcommand name => "error: unrecognized subcommand " ++ cited name
  | .missing parameters =>
      "error: the following required arguments were not provided:" ++
        String.join (parameters.map fun parameter => "\n  " ++ parameter.shown)
  | .valueMissing parameter =>
      "error: a value is required for '" ++ parameter.shown ++ "' but none was supplied" ++
        choicesLine parameter
  | .notAChoice value parameter =>
      "error: invalid value " ++ cited value ++ " for '" ++ parameter.shown ++ "'" ++
        choicesLine parameter
  | .invalidValue value parameter cause =>
      "error: invalid value " ++ cited value ++ " for '" ++ parameter.shown ++ "': " ++
        cause.message
  | .repeated parameter =>
      "error: the argument '" ++ parameter.shown ++ "' cannot be used multiple times"
  | .valueNotTaken value flag =>
      "error: unexpected value " ++ cited value ++ " for '" ++ flag ++
        "' found; no more were expected"
  | .subcommandMissing =>
      "error: '" ++ programName ++ "' requires a subcommand but one was not provided\n" ++
        "  [subcommands: " ++ ", ".intercalate subcommands ++ "]"
  | .nothingGiven => summary

namespace Parameter

/-- Finds the choice that a value names; an empty value is none at all. -/
def choose {Choice : Type} (parameter : Parameter) (value : String)
    (choices : List (String × Choice)) : Except UsageError Choice :=
  match choices.find? fun (name, _) => name = value with
  | some (_, choice) => .ok choice
  | none =>
      if value = "" then .error (.valueMissing parameter)
      else .error (.notAChoice value parameter)

/-- Reads a value in a notation of its own. -/
def interpret {Item : Type} (parameter : Parameter) (value : String)
    (result : Except InputError Item) : Except UsageError Item :=
  result.mapError (.invalidValue value parameter)

/-- Reads the value of an option. -/
def read (parameter : Parameter) (value : String) : Except UsageError Setting :=
  match parameter with
  | .logForm => do
      return .logForm (← parameter.choose value (parameter.choices.map fun name => (name, name)))
  | .logLevel => do
      return .logLevel (← parameter.choose value
        (Log.Level.all.map fun level => (level.word, level)))
  | .engine => do
      return .engine (← parameter.choose value
        ([Engine.docker, .podman].map fun engine => (engine.name, engine)))
  | .workload => .ok (.workload value)
  | .environment => .ok (.environment value)
  | .application => .ok (.application value)
  | .portOverride => do
      return .portOverride (← parameter.interpret value (Port.Override.parse value))
  | .variableOverride => do
      return .variableOverride (← parameter.interpret value (Environment.Override.parse value))
  | .image => do
      let (name, uri) ← parameter.interpret value (Image.parseOverride value)
      return .image name uri
  | .definition => if value = "" then .error (.valueMissing parameter) else .ok (.definition value)
  | .pauseImage => .ok (.pauseImage value)

end Parameter

end Workload.CommandLine
