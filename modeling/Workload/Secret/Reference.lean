import Workload.Error
import Workload.Text.Split

/-!
# Secret references

A reference is a full ARN or the bare name of a parameter. An ARN is served by the store that its
service names, and a bare name by the parameter store.
-/

namespace Workload.Secret

open Text

/-- The sections of an `arn:partition:service:region:account:resource` identifier. -/
structure Arn where
  partition : String
  service : String
  region : String
  account : String
  resource : String
deriving Repr, DecidableEq

/-- Reads an ARN; the resource may hold further colons. -/
def Arn.parse? (text : String) : Option Arn := do
  let (tag, text) ← splitFirst ':' text
  guard (tag = "arn")
  let (partition, text) ← splitFirst ':' text
  let (service, text) ← splitFirst ':' text
  let (region, text) ← splitFirst ':' text
  let (account, resource) ← splitFirst ':' text
  return { partition, service, region, account, resource }

/-- The text of an ARN. -/
def Arn.text (arn : Arn) : String :=
  ":".intercalate ["arn", arn.partition, arn.service, arn.region, arn.account, arn.resource]

/-- A store of secret values. -/
inductive Store where
  | parameters
  | vault
deriving Repr, DecidableEq

/-- The store that serves a reference. -/
def storeOf (reference : String) : Except SecretError Store :=
  match Arn.parse? reference with
  | none => .ok .parameters
  | some arn =>
      if arn.service = "ssm" then .ok .parameters
      else if arn.service = "secretsmanager" then .ok .vault
      else .error (.unsupportedStore reference)

end Workload.Secret
