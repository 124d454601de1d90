import Workload.Aws
import Workload.Environment.Build
import Workload.Request
import Workload.Task.File

/-!
# Preparing a run

Everything is resolved before any container starts. The stages follow each other: the request is
checked, the task definition loaded, the credentials obtained, the environment built with all its
secrets, and the plan drawn up. The first stage that fails ends the preparation with its error; what
was called and logged until then is kept.
-/

namespace Workload

/-- What a preparation finds around the process. -/
structure Surroundings where
  environment : ProcessEnvironment
  fileAt : String → Task.FileContent
  /-- The tool at a path. -/
  toolAt : String → Tool

/-- A run that is ready to start. -/
structure Launch where
  plan : Run.Plan
  engine : Engine
  /-- Milliseconds between two checks whether the pause container runs. -/
  pollInterval : Nat

namespace Preparation

/-! ## Task definitions -/

/-- The span of reading a task definition from a file. -/
def fileSpan (identity : Run.Identity) (path : String) : Log.Span where
  target := "localrun_core::task"
  name := "get"
  fields := [("app", .quoted identity.application), ("env", .quoted identity.environment),
    ("workload", .quoted identity.workload), ("path", .shown path)]

/-- How a message counts the containers of a task definition. -/
def loadedMessage (definition : Task.Definition) : String :=
  "Loaded task definition with " ++ Text.decimal definition.containers.length ++ " containers"

/-- Logs that the task waits for a file, if there is one to wait for. -/
def fileRecords : Task.FileContent → List Log.Record
  | .missing => []
  | _ => [.waiting]

/-- Loads a task definition from a file. -/
def definitionFromFile (identity : Run.Identity) (path : String) (content : Task.FileContent) :
    Attempt RunError Task.Definition :=
  Attempt.within (fileSpan identity path) do
    Attempt.record (fileRecords content)
    let definition ← Attempt.ofResult ((Task.Definition.ofFile path content).mapError .input)
    Attempt.log .debug "localrun_core::task" (loadedMessage definition)
    return definition

/-- Loads the task definition that a request is about. -/
def definition (surroundings : Surroundings) (client : Aws) (request : Request) :
    Attempt RunError Task.Definition :=
  match request.definitionPath with
  | some path => definitionFromFile request.identity path (surroundings.fileAt path)
  | none => client.definition request.identity

/-! ## Credentials -/

/-- Obtains credentials: those of the process environment if it carries a key pair. -/
def credentials (surroundings : Surroundings) (client : Aws) : Attempt RunError Credentials :=
  if Credentials.availableIn surroundings.environment then
    Attempt.ofResult (Credentials.ofEnvironment surroundings.environment)
  else client.credentials surroundings.environment

/-! ## Environment -/

/-- Under what name secret resolution logs. -/
def secretsTarget : String := "localrun_core::secrets"

/-- Under what name the environment's construction logs. -/
def environmentTarget : String := "localrun_core::env"

/-- The records of the fetch of one reference. -/
def fetchRecords (client : Aws) (store : Secret.Store) (reference : String) : List Log.Record :=
  (.message .debug secretsTarget ("Fetching secret " ++ reference) ::
    (client.secret store reference).records).map Log.Record.apart

/-- The records of a resolution. -/
def resolutionRecords (client : Aws) (references : List String)
    (resolution : Secret.Resolution) : List Log.Record :=
  let span : Log.Span :=
    { target := secretsTarget, name := "resolve"
      fields := [("references", .number references.length)] }
  let fetches := resolution.lookups.flatMap fun (store, reference) =>
    fetchRecords client store reference
  let wait := if resolution.lookups.isEmpty then [] else [Log.Record.waiting]
  let conclusion := match resolution.result with
    | .ok values =>
        [Log.Record.message .debug secretsTarget
          ("Resolved " ++ Text.decimal values.length ++ " secrets")]
    | .error _ => []
  Log.Record.task span (fetches ++ wait ++ conclusion)

/-- Resolves references through the AWS tool. -/
def secrets (client : Aws) (resolver : Secret.Resolver) (references : List String) :
    Attempt SecretError (List (String × String)) :=
  let resolution := resolver client.answers references
  { calls := resolution.lookups.flatMap fun (store, reference) =>
      (client.secret store reference).calls
    records := resolutionRecords client references resolution
    result := resolution.result }

/-- The records about declarations and secrets that do not count. -/
def environmentRecords (definition : Task.Definition) (credentials : Credentials)
    (overrides : List Environment.Override) : List Log.Record :=
  (Environment.ignoredDeclarations definition).map (fun declared =>
    .message .warn environmentTarget (Environment.ignoredWarning declared)) ++
  (Environment.overriddenSecrets definition credentials overrides).map fun secret =>
    .message .debug environmentTarget
      ("Secret " ++ secret.name ++ " in " ++ secret.container ++ " is overridden; skipping")

/-- Builds the environment with secrets from the AWS tool. -/
def environment (client : Aws) (resolver : Secret.Resolver) (definition : Task.Definition)
    (credentials : Credentials) (overrides : List Environment.Override) :
    Attempt RunError Environment :=
  Attempt.within { target := environmentTarget, name := "build" } do
    Attempt.record (environmentRecords definition credentials overrides)
    let (prepared, references) ← Attempt.ofResult
      ((Environment.prepare definition credentials overrides).mapError RunError.input)
    Attempt.log .debug environmentTarget
      ("Resolving " ++ Text.decimal references.length ++ " distinct secret references")
    let values ← (secrets client resolver references).mapError .secret
    return prepared.fillSecrets values

/-! ## The plan -/

/-- Under what name the command itself logs. -/
def commandTarget : String := "localrun::commands::run_local"

/-- The plan of a run. -/
def plan (request : Request) (settings : Settings) (definition : Task.Definition)
    (environment : Environment) : Run.Plan where
  identity := request.identity
  pauseImage := request.pauseImage.getD settings.pauseImage
  ports := Port.Bindings.resolve definition request.portOverrides
  containers := Image.resolve request.images definition
  environment := environment

/-- The records about the images of a run. -/
def imageRecords (images : Image.Built) (definition : Task.Definition) : List Log.Record :=
  (Image.ignored images definition).map (fun name =>
    .message .warn "localrun_core::images" (Image.ignoredWarning name)) ++
  definition.containers.filterMap fun container =>
    (Table.find? container.name images).map fun image =>
      .message .debug "localrun_core::images"
        ("Using built image " ++ image ++ " for " ++ container.name)

/-- The records about the ports and images of a run. -/
def planRecords (request : Request) (definition : Task.Definition) (plan : Run.Plan) :
    List Log.Record :=
  (Port.replaced definition [] request.portOverrides).map (fun (override, host) =>
    .message .debug "localrun_core::ports"
      ("Port override " ++ override.text ++ " replaces host port " ++
        Text.decimal host.toNat)) ++
  imageRecords request.images definition ++
  plan.ports.entries.map fun (container, host) =>
    .message .info commandTarget
      ("Publishing container port " ++ Text.decimal container.toNat ++ " on host port " ++
        Text.decimal host.toNat)

/-! ## All stages -/

/-- The records about the settings of a run. -/
def settingsRecords (environment : ProcessEnvironment) (settings : Settings) : List Log.Record :=
  (Settings.warnings environment).map (.message .warn "localrun_core::config") ++
    [.message .debug commandTarget ("Run configuration: " ++ settings.describe)]

/-- The client of the AWS tool for a run with the given settings. -/
def clientOf (surroundings : Surroundings) (settings : Settings) : Aws where
  path := settings.awsPath
  region := Credentials.regionOf surroundings.environment
  tool := surroundings.toolAt settings.awsPath

/-- Prepares the run that a request asks for. -/
def prepare (surroundings : Surroundings) (resolver : Secret.Resolver) (request : Request) :
    Attempt RunError Launch := do
  Attempt.ofResult (request.validate.mapError RunError.input)
  let settings := Settings.read surroundings.environment request.engine
  let client := clientOf surroundings settings
  Attempt.record (settingsRecords surroundings.environment settings)
  let definition ← definition surroundings client request
  Attempt.log .info commandTarget (loadedMessage definition)
  let credentials ← credentials surroundings client
  let environment ← environment client resolver definition credentials request.variableOverrides
  let plan := plan request settings definition environment
  Attempt.record (planRecords request definition plan)
  return { plan, engine := settings.engine, pollInterval := settings.pollInterval }

end Preparation

end Workload
