import Workload.CommandLine.Command
import Workload.Execution
import Workload.Log.Line

/-!
# The log of a command

The operator chooses the level of the log on the command line; a filter in the process environment
takes precedence over it.
-/

namespace Workload.CommandLine

/-- The line that names the program and its version. -/
def versionLine : String := programName ++ " " ++ version

namespace Command

/-- The filter that the operator's level stands for. -/
def filterText (command : Command) : String :=
  "localrun=" ++ command.logLevel.word ++ ",localrun_core=" ++ command.logLevel.word

/-- The process environment with the operator's filter, if it says nothing about filters. -/
def withFilter (command : Command) (environment : ProcessEnvironment) : ProcessEnvironment :=
  if environment.isSet Log.Settings.filterName || environment.isSet Log.Settings.commonFilterName
  then environment
  else (Log.Settings.commonFilterName, Text.encode command.filterText) :: environment

/-- The settings of the log of a command. -/
def logSettings (command : Command) (environment : ProcessEnvironment) : Log.Settings :=
  Log.Settings.read (command.withFilter environment) command.logForm

/-- The records of a command from the beginning of the log on. -/
def records (command : Command) (settings : Log.Settings) (execution : Execution)
    (run : List Log.Record) : List Log.Record :=
  settings.started ::
    .message .debug "localrun::cli" ("CLI initialized with log level: " ++ command.logLevel.word) ::
    execution.records command.request.identity run

end Command

end Workload.CommandLine
