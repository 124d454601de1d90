import Workload.CommandLine.Log
import Workload.Simulated.Fetching
import Workload.Simulated.Performance

/-!
# The command line program

The program reads its arguments, the variables that it knows and the task definition file, and
prints the log, the output of containers and the error that ended it. It has no way to start
processes, so every tool counts as not installed.
-/

namespace Workload.Program

/-- The variables that the program reads. -/
def variableNames : List String :=
  Credentials.identityNames ++
    [Engine.variableName, Settings.pauseImageName, Settings.pollIntervalName, Settings.awsPathName,
      Log.Settings.filterName, Log.Settings.commonFilterName, Log.Settings.formVariable,
      Log.Settings.stagesName]

/-- What the program prints, and the status with which it ends. -/
structure Outcome where
  stdout : List String := []
  stderr : List String := []
  exitCode : Nat := 0

/-- The outcome of a command line that does not describe a command. -/
def Outcome.ofStop : CommandLine.Stop → Outcome
  | .help => { stdout := [CommandLine.summary] }
  | .version => { stdout := [CommandLine.versionLine] }
  | .usage fault => { stderr := [fault.message], exitCode := Report.usageCode }

/-- The line of a log as text. -/
def logLine : Log.Line → String
  | .text line => line
  | .json line => line.text

/-- The outcome of a command where no tool is installed. -/
def Outcome.ofCommand (environment : ProcessEnvironment) (content : Task.FileContent)
    (command : CommandLine.Command) : Outcome :=
  let surroundings : Surroundings :=
    { environment
      fileAt := fun _ => content
      toolAt := fun _ => Simulated.brokenTool .notFound }
  let settings := Settings.read environment command.request.engine
  let resolver := Simulated.resolver (Preparation.clientOf surroundings settings) [] []
  let execution := Execution.start surroundings resolver command.request
  let performance := Simulated.Performance.start execution (fun _ _ => .error .notFound) [] []
  let logSettings := command.logSettings environment
  let records := command.records logSettings performance.execution performance.records
  let report := performance.execution.errorReport
  { stdout := performance.stdout
    stderr := (logSettings.lines records).map logLine ++ performance.stderr ++
      (if report = "" then [] else [report])
    exitCode := performance.execution.exitCode }

/-- The variables of the process that the program knows. -/
def readEnvironment : IO ProcessEnvironment := do
  let found ← variableNames.mapM fun name => do
    return (← IO.getEnv name).map fun value => (name, Text.encode value)
  return found.filterMap id

/-- What stands at a path; a path that cannot be read counts as missing. -/
def readFile (path : String) : IO Task.FileContent := do
  try
    let content ← IO.FS.readBinFile path
    return .bytes content.toList
  catch _ => return .missing

/-- The outcome of a command line. -/
def outcomeOf (arguments : List String) : IO Outcome := do
  match CommandLine.Command.read arguments with
  | .error stop => return .ofStop stop
  | .ok command =>
      let content ← match command.request.definitionPath with
        | some path => readFile path
        | none => pure .missing
      return .ofCommand (← readEnvironment) content command

end Workload.Program

/-- Runs the program. -/
def main (arguments : List String) : IO UInt32 := do
  let outcome ← Workload.Program.outcomeOf arguments
  for line in outcome.stdout do
    IO.println line
  for line in outcome.stderr do
    IO.eprintln line
  return outcome.exitCode.toUInt32
