import Workload.Error
import Workload.ProcessEnvironment

/-!
# Session credentials

Every container receives the credentials and region of the operator's session as identity variables.
-/

namespace Workload

/-- The credentials and region of a session. -/
structure Credentials where
  accessKeyId : String
  secretAccessKey : String
  sessionToken : Option String := none
  region : Option String := none
deriving Repr, DecidableEq

namespace Credentials

/-- The variable of the access key id. -/
def accessKeyIdName : String := "AWS_ACCESS_KEY_ID"

/-- The variable of the secret access key. -/
def secretAccessKeyName : String := "AWS_SECRET_ACCESS_KEY"

/-- The variable of the session token. -/
def sessionTokenName : String := "AWS_SESSION_TOKEN"

/-- The variable of the region that applies when `AWS_REGION` is absent. -/
def defaultRegionName : String := "AWS_DEFAULT_REGION"

/-- The variable of the region. -/
def regionName : String := "AWS_REGION"

/-- The names of the identity variables. -/
def identityNames : List String :=
  [accessKeyIdName, secretAccessKeyName, sessionTokenName, defaultRegionName, regionName]

/-- Whether a name is that of an identity variable. -/
def isIdentityName (name : String) : Bool :=
  name ∈ identityNames

/-- The identity variables that every container receives. -/
def identityVariables (credentials : Credentials) : List (String × String) :=
  [(accessKeyIdName, credentials.accessKeyId),
    (secretAccessKeyName, credentials.secretAccessKey),
    (sessionTokenName, credentials.sessionToken.getD "")] ++
  match credentials.region with
  | some region => [(defaultRegionName, region), (regionName, region)]
  | none => []

/-- The text of an optional value. -/
def optionText : Option String → String
  | none => "None"
  | some text => "Some(" ++ Text.quoted text ++ ")"

/-- A description of credentials that shows neither the secret key nor the session token. -/
def redacted (credentials : Credentials) : String :=
  "Credentials \x7b access_key_id: " ++ Text.quoted credentials.accessKeyId ++
    ", secret_access_key: " ++ Text.quoted "****" ++
    ", session_token: " ++ optionText (credentials.sessionToken.map fun _ => "****") ++
    ", region: " ++ optionText credentials.region ++ " \x7d"

/-- Whether the process environment carries a key pair. -/
def availableIn (environment : ProcessEnvironment) : Bool :=
  environment.isSet accessKeyIdName && environment.isSet secretAccessKeyName

/--
The region of the process environment: `AWS_REGION` if it is readable, and otherwise
`AWS_DEFAULT_REGION`. An empty text is no region.
-/
def regionOf (environment : ProcessEnvironment) : Option String :=
  match environment.text? regionName with
  | some region => if region = "" then none else some region
  | none =>
      match environment.text? defaultRegionName with
      | some region => if region = "" then none else some region
      | none => none

/-- A variable that credentials cannot do without. -/
def requiredVariable (environment : ProcessEnvironment) (name : String) :
    Except RunError String :=
  match environment.text? name with
  | some value => .ok value
  | none => .error (.credentials (name ++ " is not set"))

/-- The credentials of the process environment. -/
def ofEnvironment (environment : ProcessEnvironment) : Except RunError Credentials := do
  let accessKeyId ← requiredVariable environment accessKeyIdName
  let secretAccessKey ← requiredVariable environment secretAccessKeyName
  return { accessKeyId, secretAccessKey
           sessionToken := environment.text? sessionTokenName
           region := regionOf environment }

end Credentials

end Workload
