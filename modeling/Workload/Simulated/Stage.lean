import Workload.CommandLine.Log
import Workload.Simulated.Fetching
import Workload.Simulated.Performance
import Workload.Simulated.Search

/-!
# A stage for whole commands

A stage holds everything that a command can meet outside itself: the variables of its process, the
files of its working directory, a stand-in for every tool, and the signals that will reach it. A
command that is performed on a stage therefore always ends the same way.
-/

namespace Workload.Simulated

/-- What surrounds a command. -/
structure Stage where
  environment : ProcessEnvironment := []
  /-- The files of the working directory. -/
  files : Files := []
  /-- The rules of the stand-in for each tool. -/
  rules : String → List Rule
  cues : List SignalCue := []

namespace Stage

/-- What stands at a path. -/
def fileAt (stage : Stage) (path : String) : Task.FileContent :=
  match stage.files.find path with
  | .ok (.file content) => .bytes content
  | .ok _ => .directory
  | .error _ => .missing

/-- The surroundings that a command finds on a stage. -/
def surroundings (stage : Stage) : Surroundings where
  environment := stage.environment
  fileAt := stage.fileAt
  toolAt := stage.files.toolAt stage.rules

/-- Performs a command to its end. -/
def perform (stage : Stage) (command : CommandLine.Command) : Performance :=
  let settings := Settings.read stage.environment command.request.engine
  let resolver := resolver (Preparation.clientOf stage.surroundings settings)
    (stage.rules settings.awsPath) []
  let execution := Execution.start stage.surroundings resolver command.request
  Performance.start execution
    (fun engine => stage.files.castFor (stage.rules engine.name) engine.name)
    (Invocation.ofCalls execution.preparation.calls) stage.cues

/-- The log of a command that was performed on the stage. -/
def log (stage : Stage) (command : CommandLine.Command) (performance : Performance) :
    List Log.Line :=
  let settings := command.logSettings stage.environment
  settings.lines (command.records settings performance.execution performance.records)

/-- The log line by line, each up to the first newline in it. -/
def logLines (stage : Stage) (command : CommandLine.Command) (performance : Performance) :
    List Log.Line :=
  (stage.log command performance).flatMap fun line => line.pieces.take 1

/-- What is printed besides the log and the report of an error, with what newlines cut off it. -/
def stderr (stage : Stage) (command : CommandLine.Command) (performance : Performance) :
    List String :=
  (stage.log command performance).flatMap Log.Line.remainder ++ performance.stderr

end Stage

end Workload.Simulated
