import Workload.Simulated.Tool

/-!
# Processes of stand-ins

Processes of stand-ins run side by side. A process first notes its call, as soon as its rule does
not hold it back any more, and then ends unless its rule keeps it from ending. Of several processes
that can take the same step the one that was started first takes it.
-/

namespace Workload.Simulated

/-- A process of a stand-in, with what it was started for. -/
structure Process (Purpose : Type) where
  purpose : Purpose
  invocation : Invocation
  rule : Rule
  /-- The process has noted its call and written its output. -/
  noted : Bool := false
deriving Repr

/-- The processes that run, in the order in which they were started, and the calls noted so far. -/
structure Processes (Purpose : Type) where
  running : List (Process Purpose) := []
  notes : List Invocation := []
deriving Repr

namespace Processes

variable {Purpose : Type}

/-- Whether a call with the given words was noted. -/
def wasNoted (notes : List Invocation) (words : List String) : Bool :=
  notes.any fun invocation => mentions words invocation.arguments

/-- Starts a process. -/
def start (processes : Processes Purpose) (purpose : Purpose) (invocation : Invocation)
    (rule : Rule) : Processes Purpose :=
  { processes with running := processes.running ++ [{ purpose, invocation, rule }] }

/-- Whether a process can note its call. -/
def mayNote (processes : Processes Purpose) (process : Process Purpose) : Bool :=
  !process.noted && process.rule.waitsFor.all (wasNoted processes.notes)

/-- Replaces the first process that satisfies a condition. -/
def replaceFirst (condition : Process Purpose → Bool)
    (change : Process Purpose → Process Purpose) :
    List (Process Purpose) → List (Process Purpose)
  | [] => []
  | process :: rest =>
      if condition process then change process :: rest
      else process :: replaceFirst condition change rest

/-- Lets a process note its call. -/
def note? (processes : Processes Purpose) : Option (Process Purpose × Processes Purpose) :=
  (processes.running.find? processes.mayNote).map fun process =>
    (process,
      { running := replaceFirst processes.mayNote
          (fun process => { process with noted := true }) processes.running
        notes := processes.notes ++ [process.invocation] })

/-- Whether a process can end. -/
def mayEnd (process : Process Purpose) : Bool :=
  process.noted && !process.rule.hangs

/-- Lets a process end. -/
def end? (processes : Processes Purpose) : Option (Process Purpose × Processes Purpose) :=
  (processes.running.find? mayEnd).map fun process =>
    (process, { processes with running := processes.running.eraseP mayEnd })

/-- Ends the processes with a purpose that satisfies a condition. -/
def kill (processes : Processes Purpose) (condition : Purpose → Bool) : Processes Purpose :=
  let kept := processes.running.filter fun process => !(condition process.purpose)
  { processes with running := kept }

end Processes

end Workload.Simulated
