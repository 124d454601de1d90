/-!
# Phases of a run
-/

namespace Workload.Run

/-- The phase of a run that is published to observers. -/
inductive Phase where
  | idle
  | pauseStarting
  | pauseConfirmed
  | applicationsStarting
  | running
  | completed
  | cancelling
  | cleaningUp
  | done
deriving Repr, DecidableEq

/-- The name of a phase. -/
def Phase.name : Phase → String
  | .idle => "idle"
  | .pauseStarting => "pause-starting"
  | .pauseConfirmed => "pause-confirmed-running"
  | .applicationsStarting => "apps-starting"
  | .running => "running"
  | .completed => "completed"
  | .cancelling => "cancelling"
  | .cleaningUp => "cleaning-up"
  | .done => "done"

/-- Whether shutdown has begun and a further interrupt may abandon it. -/
def Phase.isShutdown (phase : Phase) : Bool :=
  phase = .cancelling || phase = .cleaningUp

end Workload.Run
