import Workload.Text.Numeral
import Workload.Text.Quoted

/-!
# What can go wrong

The errors follow the stages of a local run. Errors of the operator's input and of secret resolution
arise before any container starts; errors of the container engine are reported after cleanup; failed
cleanup steps are collected per container and reported together. Each type has one function that
words its causes, and `sources` lists the wording of the causes behind an error, outermost first.
-/

namespace Workload

open Text

/-- An error in what the operator or the task definition says. -/
inductive InputError where
  | validation (detail : String)
  | missing (what : String)
  | unknownContainer (key container : String)
  | duplicateSecret (container name : String)
  | portOverride (value reason : String)
  | variableOverride (value reason : String)
  | imageOverride (value : String)
  | definitionSyntax (detail : String)
  | definitionNotFound (path : String)
  | definitionUnreadable (detail : String)
deriving Repr, DecidableEq

/-- The wording of an input error. -/
def InputError.message : InputError → String
  | .validation detail => "Configuration validation error: " ++ detail
  | .missing what => "Missing required value: " ++ what
  | .unknownContainer key container =>
      quoted key ++ " targets invalid container " ++ quoted container
  | .duplicateSecret container name =>
      "secret names must be unique, but an environment variable " ++ quoted name ++
        " already exists in container " ++ quoted container
  | .portOverride value reason => "Invalid port override " ++ quoted value ++ ": " ++ reason
  | .variableOverride value reason =>
      "Invalid environment variable override " ++ quoted value ++ ": " ++ reason
  | .imageOverride value => "Invalid image override " ++ quoted value ++ ": expected NAME=URI"
  | .definitionSyntax detail => "Failed to parse task definition: " ++ detail
  | .definitionNotFound path => "Task definition file not found: " ++ path
  | .definitionUnreadable _ => "Failed to read task definition file"

/-- The causes behind an input error. -/
def InputError.sources : InputError → List String
  | .definitionUnreadable detail => [detail]
  | _ => []

/-- An error of the container engine. -/
inductive EngineError where
  | notInstalled
  | command (detail : String)
  | noSuchContainer (name : String)
  | exitStatus (code : Option Int)
  | cancelled
deriving Repr, DecidableEq

/-- The decimal text of an integer. -/
def integerText (value : Int) : String :=
  if value < 0 then "-" ++ decimal value.natAbs else decimal value.natAbs

/-- The wording of an engine error. -/
def EngineError.message : EngineError → String
  | .notInstalled => "Container runtime is not installed or not accessible"
  | .command detail => "Docker CLI error: " ++ detail
  | .noSuchContainer name => "Container not found: " ++ name
  | .exitStatus none => "container exited with status unknown"
  | .exitStatus (some code) => "container exited with status " ++ integerText code
  | .cancelled => "run cancelled"

/-- An error of the AWS command line tool. -/
inductive AwsError where
  | notInstalled
  | command (detail : String)
  | output (detail : String)
deriving Repr, DecidableEq

/-- The wording of an error of the AWS command line tool. -/
def AwsError.message : AwsError → String
  | .notInstalled => "AWS CLI is not installed or not accessible"
  | .command detail => "AWS CLI error: " ++ detail
  | .output detail => "Failed to parse AWS CLI output: " ++ detail

/-- An error of secret resolution. -/
inductive SecretError where
  | unsupportedStore (reference : String)
  | fetch (reference : String) (cause : SecretError)
  | store (cause : AwsError)
  | task (detail : String)
deriving Repr, DecidableEq

/-- The wording of an error of secret resolution. -/
def SecretError.message : SecretError → String
  | .unsupportedStore reference =>
      "invalid ARN " ++ quoted reference ++ "; not a SSM or Secrets Manager ARN"
  | .fetch reference cause => "get secret " ++ quoted reference ++ ": " ++ cause.message
  | .store cause => cause.message
  | .task detail => "secret fetch task failed: " ++ detail

/-- The causes behind an error of secret resolution. -/
def SecretError.sources : SecretError → List String
  | .fetch _ cause => cause.message :: cause.sources
  | .store cause => [cause.message]
  | _ => []

/-- A half of the cleanup of one container. -/
inductive CleanupStep where
  | stop
  | remove
deriving Repr, DecidableEq

/-- The engine's word for a cleanup step. -/
def CleanupStep.word : CleanupStep → String
  | .stop => "stop"
  | .remove => "rm"

/-- A cleanup step that failed. -/
structure CleanupFailure where
  container : String
  step : CleanupStep
  cause : EngineError
deriving Repr, DecidableEq

/-- The wording of a failed cleanup step. -/
def CleanupFailure.message (failure : CleanupFailure) : String :=
  "clean up " ++ quoted failure.container ++ ": " ++ failure.step.word ++ ": " ++
    failure.cause.message

/-- The causes behind a failed cleanup step. -/
def CleanupFailure.sources (failure : CleanupFailure) : List String :=
  [failure.cause.message]

/-- An error of a local run. -/
inductive RunError where
  | input (cause : InputError)
  | secret (cause : SecretError)
  | engine (cause : EngineError)
  | aws (cause : AwsError)
  | credentials (detail : String)
  | pause (cause : EngineError)
  | container (name : String) (cause : EngineError)
  | cancelled
  | aggregate (run : Option RunError) (cleanup : List CleanupFailure)
  | internal (detail : String)
deriving Repr

/-- Puts lines below each other. -/
def joinLines (lines : List String) : String :=
  "\n".intercalate lines

/-- The wording of an error of a local run. -/
def RunError.message : RunError → String
  | .input cause => "Configuration error: " ++ cause.message
  | .secret cause => "get secrets: " ++ cause.message
  | .engine cause => "Docker error: " ++ cause.message
  | .aws cause => "AWS error: " ++ cause.message
  | .credentials detail => "get IAM credentials: " ++ detail
  | .pause cause => "run pause container: " ++ cause.message
  | .container name cause => "run container " ++ quoted name ++ ": " ++ cause.message
  | .cancelled => "run cancelled"
  | .aggregate none cleanup => joinLines (cleanup.map CleanupFailure.message)
  | .aggregate (some run) cleanup =>
      joinLines (run.message :: cleanup.map CleanupFailure.message)
  | .internal detail => "Internal error: " ++ detail

/-- The causes behind an error of a local run. -/
def RunError.sources : RunError → List String
  | .input cause => cause.message :: cause.sources
  | .secret cause => cause.message :: cause.sources
  | .engine cause => [cause.message]
  | .aws cause => [cause.message]
  | .pause cause => [cause.message]
  | .container _ cause => [cause.message]
  | _ => []

/-- Whether an error exists only because a cancellation was requested. -/
def RunError.isCancellation : RunError → Bool
  | .cancelled => true
  | .pause cause => cause = .cancelled
  | .container _ cause => cause = .cancelled
  | .engine cause => cause = .cancelled
  | _ => false

/-- Whether the wording of one failed cleanup step does not come after that of another. -/
def CleanupFailure.notAfter (first second : CleanupFailure) : Bool :=
  first.message ≤ second.message

/--
Combines the error of a run with the failed cleanup steps, which are ordered by their wording so
that the order in which concurrent cleanups finished does not show.
-/
def RunError.combine (run : Option RunError) (cleanup : List CleanupFailure) : Option RunError :=
  if cleanup.isEmpty then run
  else some (.aggregate run (cleanup.mergeSort CleanupFailure.notAfter))

end Workload
