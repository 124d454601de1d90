import Workload.CommandLine.Parameter
import Workload.CommandLine.Word
import Workload.Request

/-!
# Reading the command line

The words are read from left to right. An option without an attached value takes the next word as
its value, unless that word looks like an option itself; the value is read once the next option
begins or the words are at their end, and an error about a word that has no place comes first. The
options that are shared may stand before and after the subcommand, and what stands after it counts.
-/

namespace Workload.CommandLine

/-- A request and how to log it. -/
structure Command where
  request : Request
  logForm : Option String
  logLevel : Log.Level

/-- Why there is nothing to run. -/
inductive Stop where
  | help
  | version
  | usage (error : UsageError)
deriving Repr, DecidableEq

/-- An option without a value. -/
inductive Flag where
  | help
  | version
deriving Repr, DecidableEq

namespace Flag

/-- The long name of a flag. -/
def name : Flag → String
  | .help => "help"
  | .version => "version"

/-- The letter that is short for a flag. -/
def letter : Flag → Char
  | .help => 'h'
  | .version => 'V'

/-- What a flag asks for in place of a run. -/
def stop : Flag → Stop
  | .help => .help
  | .version => .version

end Flag

/-- The options that are known at one level of the command line. -/
structure Grammar where
  parameters : List Parameter
  flags : List Flag

/-- The options before the subcommand. -/
def Grammar.root : Grammar := ⟨Parameter.shared, [.help, .version]⟩

/-- The options of the subcommand that runs a workload. -/
def Grammar.run : Grammar := ⟨Parameter.ofRun, [.help]⟩

/-- How far one level of the command line has been read. -/
structure Reading where
  given : List Setting := []
  /-- The last option, with the word given for it, while its value has not been read. -/
  pending : Option (Parameter × Option String) := none

namespace Reading

/-- Whether the next word is the value of the last option. -/
def awaits (reading : Reading) : Bool :=
  match reading.pending with
  | some (_, none) => true
  | _ => false

/-- Reads the value of an option and keeps it; only some options may be given twice. -/
def keep (reading : Reading) (parameter : Parameter) (value : String) :
    Except UsageError Reading :=
  if !parameter.isRepeatable &&
      reading.given.any fun setting => setting.parameter = parameter then
    .error (.repeated parameter)
  else do
    let setting ← parameter.read value
    return { given := reading.given ++ [setting] }

/-- Reads the value of the last option. -/
def settle (reading : Reading) : Except UsageError Reading :=
  match reading.pending with
  | none => .ok reading
  | some (parameter, none) => .error (.valueMissing parameter)
  | some (parameter, some value) => keep { reading with pending := none } parameter value

/-- Takes a word as the value of the last option. -/
def takeValue (reading : Reading) (word : String) : Reading :=
  { reading with pending := reading.pending.map fun (parameter, _) => (parameter, some word) }

/-- Begins an option, with its value if that is attached. -/
def begin (reading : Reading) (parameter : Parameter) (attached : Option (List Char)) :
    Except UsageError Reading := do
  let settled ← reading.settle
  match attached with
  | some value => settled.keep parameter (String.ofList value)
  | none => return { settled with pending := some (parameter, none) }

/-- Stops for a flag. -/
def raise (reading : Reading) (flag : Flag) : Except Stop Reading := do
  let _ ← reading.settle.mapError Stop.usage
  throw flag.stop

/-- Reads an option by its long name. -/
def readLong (grammar : Grammar) (reading : Reading) (name : List Char)
    (value : Option (List Char)) : Except Stop Reading :=
  let text := String.ofList name
  match grammar.parameters.find? fun parameter => parameter.name = text with
  | some parameter => (reading.begin parameter value).mapError .usage
  | none =>
      match grammar.flags.find? fun flag => flag.name = text, value with
      | some flag, none => reading.raise flag
      | some _, some attached =>
          .error (.usage (.valueNotTaken (String.ofList attached) ("--" ++ text)))
      | none, _ => .error (.usage (.unknownArgument ("--" ++ text)))

/-- What is attached to a letter: nothing, or a value with or without an equals sign before it. -/
def attachedTo : List Char → Option (List Char)
  | [] => none
  | '=' :: value => some value
  | value => some value

/-- Reads options by their letters. -/
def readLetters (grammar : Grammar) (reading : Reading) : List Char → Except Stop Reading
  | [] => .ok reading
  | char :: rest =>
      match grammar.parameters.find? fun parameter => parameter.letter? = some char with
      | some parameter => (reading.begin parameter (attachedTo rest)).mapError .usage
      | none =>
          match grammar.flags.find? fun flag => flag.letter = char with
          | some flag => reading.raise flag
          | none => .error (.usage (.unknownArgument (String.ofList ['-', char])))

/-- The value of an option at this level. -/
def find? {Item : Type} (reading : Reading) (select : Setting → Option Item) : Option Item :=
  reading.given.findSome? select

end Reading

/-- The error about a word that has no place before the subcommand. -/
def misplaced (afterOptions : Bool) (word : String) : UsageError :=
  if afterOptions && word ∈ subcommands then .unknownArgument word else .unknownSubcommand word

/-- Reads the words after the subcommand that runs a workload. -/
def readRun (reading : Reading) : List String → Except Stop Reading
  | [] => reading.settle.mapError .usage
  | word :: rest =>
      match Word.ofChars word.toList with
      | .endOfOptions =>
          match rest with
          | [] => reading.settle.mapError .usage
          | next :: _ => .error (.usage (.unknownArgument next))
      | .long name value => do
          let next ← reading.readLong .run name value
          readRun next rest
      | .letters chars => do
          let next ← reading.readLetters .run chars
          readRun next rest
      | .plain =>
          if reading.awaits then readRun (reading.takeValue word) rest
          else .error (.usage (.unknownArgument word))

/-- What was given for a text option. -/
def textOf (reading : Reading) (select : Setting → Option String) : String :=
  (reading.find? select).getD ""

/-- The options that a run cannot do without and that were not given. -/
def missing (reading : Reading) : List Parameter :=
  Parameter.needed.filter fun parameter =>
    !reading.given.any fun setting => setting.parameter = parameter

/-- The command that the options of both levels describe. -/
def Command.ofReadings (root run : Reading) : Command :=
  let shared {Item : Type} (select : Setting → Option Item) : Option Item :=
    (run.find? select).or (root.find? select)
  { request :=
      { identity :=
          { application := textOf run fun | .application name => some name | _ => none
            environment := textOf run fun | .environment name => some name | _ => none
            workload := textOf run fun | .workload name => some name | _ => none }
        portOverrides := run.given.filterMap fun | .portOverride item => some item | _ => none
        variableOverrides := run.given.filterMap fun
          | .variableOverride item => some item
          | _ => none
        images := Table.ofList (run.given.filterMap fun
          | .image name uri => some (name, uri)
          | _ => none)
        definitionPath := run.find? fun | .definition path => some path | _ => none
        pauseImage := run.find? fun | .pauseImage image => some image | _ => none
        engine := shared fun | .engine engine => some engine | _ => none }
    logForm := shared fun | .logForm name => some name | _ => none
    logLevel := (shared fun | .logLevel level => some level | _ => none).getD .info }

/-- Reads the words after the subcommand, and then the value of the last option before it. -/
def Command.ofRun (root : Reading) (words : List String) : Except Stop Command := do
  let run ← readRun {} words
  if (missing run).isEmpty then
    let settled ← root.settle.mapError Stop.usage
    return .ofReadings settled run
  else throw (.usage (.missing (missing run)))

/-- The error about a command line that ends before the subcommand. -/
def withoutSubcommand (reading : Reading) : Except Stop Command := do
  let settled ← reading.settle.mapError Stop.usage
  if settled.given.isEmpty then throw (.usage .nothingGiven)
  else throw (.usage .subcommandMissing)

/-- Why the words after the subcommand for help stop the program: they may name one subcommand. -/
def helpStop : List String → Stop
  | [] => .help
  | first :: rest =>
      if first ∈ subcommands then
        match rest with
        | [] => .help
        | second :: _ => .usage (.unknownSubcommand second)
      else .usage (.unknownSubcommand first)

/-- Reads the command line from the given state on. -/
def readRoot (reading : Reading) : List String → Except Stop Command
  | [] => withoutSubcommand reading
  | word :: rest =>
      if !reading.awaits && word = "run" then Command.ofRun reading rest
      else if !reading.awaits && word = "help" then .error (helpStop rest)
      else
        match Word.ofChars word.toList with
        | .endOfOptions =>
            match rest with
            | [] => withoutSubcommand reading
            | next :: _ => .error (.usage (misplaced true next))
        | .long name value => do
            let next ← reading.readLong .root name value
            readRoot next rest
        | .letters chars => do
            let next ← reading.readLetters .root chars
            readRoot next rest
        | .plain =>
            if reading.awaits then readRoot (reading.takeValue word) rest
            else .error (.usage (misplaced false word))

/-- Reads a command line. -/
def Command.read (words : List String) : Except Stop Command :=
  readRoot {} words

end Workload.CommandLine
