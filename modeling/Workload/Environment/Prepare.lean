import Workload.Credentials
import Workload.Environment.Basic
import Workload.Environment.Override
import Workload.Task.Definition

/-!
# Preparing the environment

From lowest to highest precedence a variable comes from the session identity, the task definition, a
secret, or the operator. Overrides are applied before secrets are registered, so that a secret which
the operator overrides is never fetched on its account. A secret is first a placeholder that holds
its reference; the references still to fetch are given beside the environment.
-/

namespace Workload.Environment

/-- The identity variables as the table that every container starts from. -/
def identityEntries (credentials : Credentials) : List (String × Entry) :=
  Table.ofList (credentials.identityVariables.map fun (key, value) => (key, ⟨value, .plain⟩))

/-- The environment in which every container has the identity variables only. -/
def seed (definition : Task.Definition) (credentials : Credentials) : Environment :=
  ⟨definition.names.eraseDups.map fun name => (name, identityEntries credentials)⟩

/-- Sets a declared variable, unless its name is that of an identity variable. -/
def declare (environment : Environment) (declared : Task.Declared) : Environment :=
  if Credentials.isIdentityName declared.name then environment
  else environment.put declared.container declared.name ⟨declared.value, .plain⟩

/-- Sets the variable of an override. -/
def override (environment : Environment) (item : Override) : Environment :=
  environment.putWhere (fun name => item.container.all (· = name)) item.key
    ⟨item.value, .operator⟩

/-- The first override of a container that the task definition does not have, as an error. -/
def unknownContainer? (definition : Task.Definition) (overrides : List Override) :
    Option InputError :=
  overrides.findSome? fun item =>
    match item.container with
    | some container =>
        if container ∈ definition.names then none
        else some (.unknownContainer item.target container)
    | none => none

/-- Registers a secret, unless the operator overrides its variable. -/
def register (environment : Environment) (secret : Task.Declared) :
    Except InputError (Environment × Option String) :=
  match environment.get? secret.container secret.name with
  | some entry =>
      if entry.origin = .operator then .ok (environment, none)
      else .error (.duplicateSecret secret.container secret.name)
  | none =>
      .ok (environment.put secret.container secret.name ⟨secret.value, .secret⟩,
        some secret.value)

/-- Registers secrets in order and collects their references. -/
def registerAll (environment : Environment) :
    List Task.Declared → Except InputError (Environment × List String)
  | [] => .ok (environment, [])
  | secret :: rest => do
      let (environment, reference) ← register environment secret
      let (environment, references) ← registerAll environment rest
      return (environment, reference.toList ++ references)

/-- The environment before any secret is registered. -/
def withoutSecrets (definition : Task.Definition) (credentials : Credentials)
    (overrides : List Override) : Environment :=
  overrides.foldl override (definition.plainVariables.foldl declare (seed definition credentials))

/-- The environment with placeholders for secrets, and the distinct references still to fetch. -/
def prepare (definition : Task.Definition) (credentials : Credentials)
    (overrides : List Override) : Except InputError (Environment × List String) :=
  match unknownContainer? definition overrides with
  | some fault => .error fault
  | none => do
      let (environment, references) ←
        registerAll (withoutSecrets definition credentials overrides) definition.secrets
      return (environment, references.eraseDups)

/-- The declared variables that are ignored because the session identity takes precedence. -/
def ignoredDeclarations (definition : Task.Definition) : List Task.Declared :=
  definition.plainVariables.filter fun declared => Credentials.isIdentityName declared.name

/-- The warning about an ignored declaration. -/
def ignoredWarning (declared : Task.Declared) : String :=
  "Ignoring " ++ declared.name ++ " declared by container " ++ declared.container ++
    "; session credentials take precedence"

/-- The secrets that are passed over because the operator overrides their variable. -/
def passedOver (environment : Environment) : List Task.Declared → List Task.Declared
  | [] => []
  | secret :: rest =>
      match register environment secret with
      | .error _ => []
      | .ok (next, some _) => passedOver next rest
      | .ok (next, none) => secret :: passedOver next rest

/-- The secrets that are passed over while the environment is prepared. -/
def overriddenSecrets (definition : Task.Definition) (credentials : Credentials)
    (overrides : List Override) : List Task.Declared :=
  match unknownContainer? definition overrides with
  | some _ => []
  | none => passedOver (withoutSecrets definition credentials overrides) definition.secrets

/-- Replaces the placeholders of secrets by the values of their references. -/
def fillSecrets (environment : Environment) (values : List (String × String)) : Environment :=
  ⟨environment.containers.map fun (name, entries) =>
    (name, entries.map fun (key, entry) =>
      if entry.origin = .secret then
        (key, ⟨(Table.find? entry.text values).getD entry.text, .secret⟩)
      else (key, entry))⟩

end Workload.Environment
