import Workload.Table

/-!
# The environment of the containers

Every container has a table of variables. A variable knows whether its value comes from a
declaration or the session, from a secret, or from the operator.
-/

namespace Workload

/-- Where the value of a variable comes from. -/
inductive Environment.Origin where
  | plain
  | secret
  | operator
deriving Repr, DecidableEq

/-- The value of a variable and where it comes from. -/
structure Environment.Entry where
  text : String
  origin : Environment.Origin
deriving Repr, DecidableEq

/-- The variables of every container. -/
structure Environment where
  containers : List (String × List (String × Environment.Entry)) := []
deriving Repr, DecidableEq

namespace Environment

/-- The variables of a container. -/
def entries? (environment : Environment) (container : String) :
    Option (List (String × Entry)) :=
  Table.find? container environment.containers

/-- A variable of a container. -/
def get? (environment : Environment) (container key : String) : Option Entry :=
  (environment.entries? container).bind (Table.find? key)

/-- Sets a variable in every container that satisfies `concerns`. -/
def putWhere (concerns : String → Bool) (key : String) (entry : Entry)
    (environment : Environment) : Environment :=
  ⟨environment.containers.map fun (name, entries) =>
    if concerns name then (name, Table.insert key entry entries) else (name, entries)⟩

/-- Sets a variable in one container. -/
def put (container key : String) (entry : Entry) (environment : Environment) : Environment :=
  environment.putWhere (· = container) key entry

/-- The variables of a container whose origin satisfies `wanted`, as texts. -/
def select (wanted : Origin → Bool) (environment : Environment) (container : String) :
    List (String × String) :=
  ((environment.entries? container).getD []).filterMap fun (key, entry) =>
    if wanted entry.origin then some (key, entry.text) else none

/-- The variables of a container that are not secret. -/
def plainPart (environment : Environment) (container : String) : List (String × String) :=
  environment.select (· != .secret) container

/-- The secret variables of a container. -/
def secretPart (environment : Environment) (container : String) : List (String × String) :=
  environment.select (· == .secret) container

end Environment

end Workload
