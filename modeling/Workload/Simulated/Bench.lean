import Workload.Simulated.Host

/-!
# Background runs on a simulated host

A bench is a simulated host with a clock in milliseconds and the runs that were begun on it.
Commands act at the present instant. A run ends by itself when its time has come and before anything
later, and a run that is cancelled before that leaves its container as it is.
-/

namespace Workload.Simulated

open Container

/-- A run on a simulated host that goes on while other things happen. -/
structure BackgroundRun where
  /-- The name under which the run can be cancelled and joined. -/
  id : Option String
  container : String
  /-- When and how the run ends by itself. -/
  ending : Option (Nat × Except EngineError Unit)
  /-- What the run returned, once it has. -/
  result : Option (Except EngineError Unit) := none

namespace BackgroundRun

/-- Whether a run that goes on ends by itself before the given instant. -/
def endsBefore (run : BackgroundRun) (time : Nat) : Bool :=
  run.result.isNone && run.ending.any fun (due, _) => due < time

/-- A run ends by itself. -/
def finish (run : BackgroundRun) : BackgroundRun :=
  { run with result := run.ending.map Prod.snd }

/-- A run is cancelled, unless it is over. -/
def cancel (run : BackgroundRun) : BackgroundRun :=
  { run with result := run.result.or (some (.error .cancelled)) }

/-- A run is forgotten under its name. -/
def forget (run : BackgroundRun) : BackgroundRun :=
  { run with id := none }

end BackgroundRun

/-- A simulated host, its clock and the runs that were begun on it. -/
structure Bench where
  host : Host.State := {}
  now : Nat := 0
  runs : List BackgroundRun := []

namespace Bench

/-- What can be done at a bench. -/
inductive Command where
  | start (id : String) (specification : Specification)
  | cancel (id : String)
  /-- Waits for the end of a run, for a limited time. -/
  | join (id : String)
  | sleep (duration : Nat)
  | addExisting (name : String)
  | isRunning (name : String)
  | stop (name : String)
  | remove (name : String)
deriving Repr, DecidableEq

/-- What a command gives. -/
inductive Reply where
  | nothing
  /-- A joined run has returned. -/
  | returned (result : Except EngineError Unit)
  /-- A joined run goes on. -/
  | pending
  | noSuchRun
  | checked (running : Bool)
  | done (result : Except EngineError Unit)
deriving Repr

/-- How long a run is waited for, in milliseconds. -/
def patience : Nat := 60000

/-- Lets all runs end that end by themselves before the given instant. -/
def settle (bench : Bench) (time : Nat) : Bench :=
  let due := bench.runs.filter fun run => run.endsBefore time
  { bench with
    host := due.foldl (fun host run => host.ends run.container) bench.host
    runs := bench.runs.map fun run => if run.endsBefore time then run.finish else run }

/-- Lets time pass. -/
def pass (bench : Bench) (duration : Nat) : Bench :=
  { bench.settle (bench.now + duration) with now := bench.now + duration }

/-- The run of the given name. -/
def run? (bench : Bench) (id : String) : Option BackgroundRun :=
  bench.runs.find? fun run => run.id = some id

/-- Changes the run of the given name. -/
def mapRun (bench : Bench) (id : String) (change : BackgroundRun → BackgroundRun) : Bench :=
  { bench with runs := bench.runs.map fun run => if run.id = some id then change run else run }

/-- Begins a run under a name; an earlier run of that name goes on without it. -/
def start (host : Host) (bench : Bench) (id : String) (specification : Specification) : Bench :=
  let name := specification.container
  let (after, fault) := bench.host.begin host specification
  let ending := (host.behaviour name).ending.map fun (delay, result) =>
    (bench.now + delay, result)
  let begun : BackgroundRun :=
    { id := some id, container := name, ending, result := fault.map .error }
  let forgetful := bench.mapRun id BackgroundRun.forget
  { forgetful with host := after, runs := forgetful.runs ++ [begun] }

/-- The instant at which a run is over, if it ever is. -/
def overAt? (bench : Bench) (run : BackgroundRun) : Option Nat :=
  if run.result.isSome then some bench.now
  else run.ending.map fun (due, _) => max bench.now due

/-- Waits for a run; one that has returned is forgotten. -/
def join (bench : Bench) (id : String) : Bench × Reply :=
  match bench.run? id with
  | none => (bench, .noSuchRun)
  | some run =>
      match bench.overAt? run with
      | some time =>
          if time < bench.now + patience then
            let arrived := { bench.settle (time + 1) with now := time }
            match (arrived.run? id).bind BackgroundRun.result with
            | some result => (arrived.mapRun id BackgroundRun.forget, .returned result)
            | none => (arrived, .pending)
          else (bench.pass patience, .pending)
      | none => (bench.pass patience, .pending)

/-- Does what a command says. -/
def perform (host : Host) (bench : Bench) : Command → Bench × Reply
  | .start id specification => (bench.start host id specification, .nothing)
  | .cancel id => (bench.mapRun id BackgroundRun.cancel, .nothing)
  | .join id => bench.join id
  | .sleep duration => (bench.pass duration, .nothing)
  | .addExisting name => ({ bench with host := bench.host.addExisting name }, .nothing)
  | .isRunning name =>
      let (after, running) := bench.host.isRunning host name
      ({ bench with host := after }, .checked running)
  | .stop name =>
      let (after, result) := bench.host.stop host name
      ({ bench with host := after }, .done result)
  | .remove name =>
      let (after, result) := bench.host.remove host name
      ({ bench with host := after }, .done result)

/-- Does what commands say, with one millisecond after each of them. -/
def performAll (host : Host) : Bench → List Command → List (Reply × Bench)
  | _, [] => []
  | bench, command :: rest =>
      let (performed, reply) := bench.perform host command
      let after := performed.pass 1
      (reply, after) :: performAll host after rest

end Bench

end Workload.Simulated
