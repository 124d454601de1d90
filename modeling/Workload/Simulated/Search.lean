import Workload.Simulated.EngineTool
import Workload.Simulated.Files
import Workload.Table

/-!
# Finding the tools on a stage

A tool that is named by a path is the file at that path. Any other name is looked for in the
directory of the stand-ins, unless the process is handed a search path of its own: then the
directories of that path are searched in order. A file that may not be executed is passed over but
not forgotten, and a name that is too long ends the search.
-/

namespace Workload.Simulated

/-- The failure of a step that goes on from what is no directory. -/
def throughFile : Tool.LaunchFailure := .refused "Not a directory (os error 20)"

/-- The failure of a name or path that is too long. -/
def nameRefused : Tool.LaunchFailure := .refused "File name too long (os error 36)"

/-- Why nothing can be started at a path that leads nowhere. -/
def Detour.failure : Detour → Tool.LaunchFailure
  | .missing => .notFound
  | .noDirectory => throughFile
  | .nameTooLong => nameRefused

namespace Files

/-- Why nothing can be started at a path: what stands there may not be executed. -/
def refusal (files : Files) (path : String) : Tool.LaunchFailure :=
  match files.find path with
  | .ok _ => notExecutable
  | .error detour => detour.failure

/-- The variable of the search path. -/
def searchName : String := "PATH"

/-- The path of a tool in a directory of a search path; an empty one is the working directory. -/
def candidate (tool directory : String) : String :=
  if directory = "" then tool else directory ++ "/" ++ tool

/-- Why a tool is not found in any directory; `denied` tells of files that may not be executed. -/
def searchFrom (files : Files) (tool : String) (denied : Bool) (last : Tool.LaunchFailure) :
    List String → Tool.LaunchFailure
  | [] => if denied then notExecutable else last
  | directory :: rest =>
      let failure := files.refusal (candidate tool directory)
      if failure = nameRefused then failure
      else files.searchFrom tool (denied || failure = notExecutable) failure rest

/-- Why a tool is not found along a search path. -/
def search (files : Files) (tool path : String) : Tool.LaunchFailure :=
  files.searchFrom tool false .notFound (Text.splitAll (· = ':') path)

/-- The tools that a stand-in plays; no other tool is installed. -/
def installed : List String := ["aws", "docker", "podman"]

/-- Why a name that no stand-in has is not found in the directory of the stand-ins. -/
def refusalOfName (name : String) : Tool.LaunchFailure :=
  if name = "." || name = ".." then notExecutable
  else if maxStepLength < name.utf8ByteSize then nameRefused
  else .notFound

/-- The tool of a name or at a path. -/
def toolAt (files : Files) (rules : String → List Rule) (path : String) : Tool :=
  if path ∈ installed then toolOf (rules path)
  else if path.toList.contains '/' then brokenTool (files.refusal path)
  else brokenTool (refusalOfName path)

/-- How a tool is played for a process that is handed the given variables. -/
def castFor (files : Files) (rules : List Rule) (tool : String)
    (given : List (String × String)) : Cast :=
  match Table.find? searchName given with
  | some path => .error (files.search tool path)
  | none => .ok rules

end Files

end Workload.Simulated
