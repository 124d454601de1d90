import Workload.Attempt
import Workload.Credentials.Exported
import Workload.Run.Plan
import Workload.Secret.Resolution
import Workload.Task.Document
import Workload.Text.Blank

/-!
# The AWS command line tool

Task definitions, session credentials and secrets come from the AWS command line tool. A client
knows the tool, the path by which it is called, and the region that every call names if there is
one.
-/

namespace Workload

/-- A client of the AWS command line tool. -/
structure Aws where
  path : String
  region : Option String := none
  tool : Tool

namespace Aws

/-- Under what name the client logs. -/
def logTarget : String := "localrun_core::aws"

/-- A text without the line end it may end with. -/
def withoutLineEnd (text : List Char) : List Char :=
  match text.reverse with
  | '\n' :: '\r' :: rest => rest.reverse
  | '\n' :: rest => rest.reverse
  | _ => text

/-- The arguments that name the region. -/
def regionArguments (client : Aws) : List String :=
  match client.region with
  | some region => ["--region", region]
  | none => []

/-- What a reply of the tool means: the text it printed, or an error. -/
def outcome : Tool.Reply → Except AwsError String
  | .error .notFound => .error .notInstalled
  | .error (.refused detail) => .error (.command ("Failed to execute AWS CLI: " ++ detail))
  | .ok output =>
      if output.succeeded then
        .ok (String.ofList (withoutLineEnd (Text.decodeLossyChars output.stdout)))
      else .error (.command (Text.trim (Text.decodeLossy output.stderr)))

/-- Calls the tool. -/
def call (client : Aws) (arguments : List String) : Attempt AwsError String :=
  let complete := arguments ++ client.regionArguments
  let reply := client.tool.reply complete
  { calls := [{ tool := client.path, arguments := complete, reply }]
    records := [.message .debug logTarget
      ("Executing AWS command: " ++ client.path ++ " " ++ " ".intercalate arguments), .waiting]
    result := outcome reply }

/-! ## Task definitions -/

/-- The arguments that ask for the task definition of a deployed workload. -/
def definitionArguments (identity : Run.Identity) : List String :=
  ["ecs", "describe-task-definition", "--task-definition", identity.family, "--output", "json"]

/-- The span of asking for a task definition. -/
def definitionSpan (identity : Run.Identity) : Log.Span where
  target := logTarget
  name := "get"
  fields := [("app", .quoted identity.application), ("env", .quoted identity.environment),
    ("workload", .quoted identity.workload)]

/-- Asks for the task definition of a deployed workload. -/
def definition (client : Aws) (identity : Run.Identity) : Attempt RunError Task.Definition :=
  Attempt.within (definitionSpan identity) do
    let text ← (client.call (definitionArguments identity)).mapError .aws
    Attempt.ofResult ((Task.Definition.ofText text).mapError .input)

/-! ## Credentials -/

/-- The arguments that ask for session credentials. -/
def credentialsArguments : List String := ["configure", "export-credentials", "--format", "process"]

/-- The arguments that ask for the configured region. -/
def configuredRegionArguments : List String := ["configure", "get", "region"]

/-- Reads the credentials that the tool has exported. -/
def readCredentials (text : String) : Except RunError Credentials.Exported :=
  (Credentials.Exported.read text.toList).mapError fun fault =>
    .aws (.output ("export-credentials: " ++ fault.message text.toList))

/-- Asks for the configured region; an error or an empty answer means that there is none. -/
def configuredRegion (client : Aws) : Attempt RunError (Option String) := do
  let answer ← ((client.call configuredRegionArguments).mapError RunError.aws).toOption
  return answer.filter (· ≠ "")

/--
The region of a session: that of the client, else that of the process environment, else the one that
the tool has configured.
-/
def sessionRegion (client : Aws) (environment : ProcessEnvironment) :
    Attempt RunError (Option String) :=
  match client.region.or (Credentials.regionOf environment) with
  | some region => Attempt.give (some region)
  | none => client.configuredRegion

/-- Asks for the credentials of the operator's session. -/
def credentials (client : Aws) (environment : ProcessEnvironment) :
    Attempt RunError Credentials :=
  Attempt.within { target := logTarget, name := "get" } do
    let text ← (client.call credentialsArguments).mapError fun fault =>
      RunError.credentials fault.message
    let exported ← Attempt.ofResult (readCredentials text)
    let region ← client.sessionRegion environment
    return { accessKeyId := exported.accessKeyId, secretAccessKey := exported.secretAccessKey
             sessionToken := exported.sessionToken, region }

/-! ## Secrets -/

/-- The arguments that ask a store for the value of a reference. -/
def secretArguments (reference : String) : Secret.Store → List String
  | .parameters =>
      ["ssm", "get-parameter", "--name", reference, "--with-decryption", "--query",
        "Parameter.Value", "--output", "text"]
  | .vault =>
      ["secretsmanager", "get-secret-value", "--secret-id", reference, "--query", "SecretString",
        "--output", "text"]

/-- Asks a store for the value of a reference. -/
def secret (client : Aws) (store : Secret.Store) (reference : String) :
    Attempt SecretError String :=
  (client.call (secretArguments reference store)).mapError .store

/-- What the stores answer for each reference. -/
def answers (client : Aws) : Secret.Answers :=
  fun store reference => (client.secret store reference).result

end Aws

end Workload
