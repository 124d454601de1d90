import Workload.Environment.Prepare

/-!
# Building the environment

The environment is prepared first; only then are the distinct references of its secrets resolved,
and each placeholder is replaced by the value of its own reference.
-/

namespace Workload.Environment

/-- The complete environment, with secrets resolved by `resolve`. -/
def build (definition : Task.Definition) (credentials : Credentials)
    (overrides : List Override)
    (resolve : List String → Except SecretError (List (String × String))) :
    Except RunError Environment :=
  match prepare definition credentials overrides with
  | .error fault => .error (.input fault)
  | .ok (environment, references) =>
      match resolve references with
      | .error cause => .error (.secret cause)
      | .ok values => .ok (environment.fillSecrets values)

end Workload.Environment
