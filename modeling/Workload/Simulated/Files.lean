import Workload.Text.Split
import Workload.Text.Utf8

/-!
# Files and paths

A stage has the files of its working directory; the directories on the way to them exist, and so do
those above the working directory and the usual ones of a system, though nothing is known about what
they hold. A path is followed step by step. It leads to a file or to a directory, or the first step
that leads nowhere decides what is wrong with it.
-/

namespace Workload.Simulated

/-- The files of a working directory by their paths. -/
abbrev Files := List (String × List UInt8)

/-- What stands at the end of a path. -/
inductive Place where
  | file (content : List UInt8)
  /-- The working directory or one inside of it. -/
  | inside (steps : List String)
  /-- A directory above the working directory. -/
  | above
  /-- A directory of the system. -/
  | system (steps : List String)
deriving Repr, DecidableEq

/-- Why a path leads nowhere. -/
inductive Detour where
  | missing
  /-- A step goes on from what is no directory. -/
  | noDirectory
  | nameTooLong
deriving Repr, DecidableEq

namespace Files

/-- The steps of a path as it is written. -/
def steps (path : String) : List String :=
  Text.splitAll (· = '/') path

/-- The steps of a path that go on from a directory to what it holds. -/
def namedSteps (path : String) : List String :=
  (steps path).filter fun step => step ≠ "" && step ≠ "."

/-- The greatest length of a step in bytes. -/
def maxStepLength : Nat := 255

/-- The greatest length of a path in bytes. -/
def maxPathLength : Nat := 4095

/-- The directories that every system has. -/
def systemDirectories : List (List String) :=
  (["bin", "boot", "dev", "etc", "home", "lib", "media", "mnt", "opt", "proc", "root", "run",
    "sbin", "srv", "sys", "tmp", "usr", "var"].map fun name => [name]) ++
  ["bin", "lib", "local", "sbin", "share"].map fun name => ["usr", name]

/-- The path of the file that swallows everything and holds nothing. -/
def emptyDevice : List String := ["dev", "null"]

/-- The file at a path of named steps. -/
def fileAt? (files : Files) (path : List String) : Option (List UInt8) :=
  (files.find? fun (name, _) => namedSteps name = path).map Prod.snd

/-- Whether a path of named steps leads to a directory on the way to a file. -/
def hasDirectory (files : Files) (path : List String) : Bool :=
  files.any fun (name, _) => path.isPrefixOf (namedSteps name).dropLast

/-- What a name leads to from a directory. -/
def enter (files : Files) (name : String) : Place → Except Detour Place
  | .file _ => .error .noDirectory
  | .inside steps =>
      let path := steps ++ [name]
      match files.fileAt? path with
      | some content => .ok (.file content)
      | none => if files.hasDirectory path then .ok (.inside path) else .error .missing
  | .above => .error .missing
  | .system steps =>
      let path := steps ++ [name]
      if path = emptyDevice then .ok (.file [])
      else if path ∈ systemDirectories then .ok (.system path)
      else .error .missing

/-- The directory above a place. -/
def leave : Place → Except Detour Place
  | .file _ => .error .noDirectory
  | .inside [] => .ok .above
  | .inside steps => .ok (.inside steps.dropLast)
  | .above => .ok .above
  | .system steps => .ok (.system steps.dropLast)

/-- What stays at a place that has to be a directory. -/
def stay : Place → Except Detour Place
  | .file _ => .error .noDirectory
  | directory => .ok directory

/-- What a step of a path leads to. -/
def take (files : Files) (place : Place) (step : String) : Except Detour Place :=
  if step = "" || step = "." then stay place
  else if step = ".." then leave place
  else if maxStepLength < step.utf8ByteSize then (stay place).bind fun _ => .error .nameTooLong
  else files.enter step place

/-- What stands at a path. -/
def find (files : Files) (path : String) : Except Detour Place :=
  if path = "" then .error .missing
  else if maxPathLength < path.utf8ByteSize then .error .nameTooLong
  else
    (steps path).foldlM files.take (if path.startsWith "/" then .system [] else .inside [])

end Files

end Workload.Simulated
