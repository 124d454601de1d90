import Workload.Error
import Workload.Json.Decode

/-!
# Cleanup events

Every step of cleaning a container up is announced, so that a display can follow it. As JSON an
event is an object whose member `type` names its kind; an array of the kind and the fields reads
too.
-/

namespace Workload.Cleanup

open Json

/-- An announced step of cleaning a container up. -/
inductive Event where
  | stopBegin (container : String)
  | stopFailed (container detail : String)
  | removeBegin (container : String)
  | removeFailed (container detail : String)
  /-- Both steps are over; `success` says that neither failed. -/
  | cleaned (container : String) (success : Bool)
deriving Repr, DecidableEq

namespace Event

/-- The container that an event is about. -/
def container : Event → String
  | .stopBegin container => container
  | .stopFailed container _ => container
  | .removeBegin container => container
  | .removeFailed container _ => container
  | .cleaned container _ => container

/-- The description of an event in the log. -/
def describe : Event → String
  | .stopBegin container => "StopBegin \x7b container: " ++ Text.quoted container ++ " \x7d"
  | .stopFailed container detail =>
      "StopFailed \x7b container: " ++ Text.quoted container ++ ", error: " ++ Text.quoted detail ++
        " \x7d"
  | .removeBegin container => "RemoveBegin \x7b container: " ++ Text.quoted container ++ " \x7d"
  | .removeFailed container detail =>
      "RemoveFailed \x7b container: " ++ Text.quoted container ++ ", error: " ++
        Text.quoted detail ++ " \x7d"
  | .cleaned container success =>
      "Cleaned \x7b container: " ++ Text.quoted container ++ ", success: " ++
        (if success then "true" else "false") ++ " \x7d"

/-- The kind of a cleanup event. -/
inductive Kind where
  | stopBegin
  | stopFailed
  | removeBegin
  | removeFailed
  | cleaned
deriving Repr, DecidableEq

/-- All kinds of cleanup events. -/
def Kind.all : List Kind := [.stopBegin, .stopFailed, .removeBegin, .removeFailed, .cleaned]

/-- The value of the member `type` of an event. -/
def Kind.tag : Kind → String
  | .stopBegin => "cleanup.stop.begin"
  | .stopFailed => "cleanup.stop.failed"
  | .removeBegin => "cleanup.rm.begin"
  | .removeFailed => "cleanup.rm.failed"
  | .cleaned => "cleanup.end"

/-- What is expected of an array of the fields of an event. -/
def Kind.expectation : Kind → String
  | .stopBegin => "struct variant CleanupEvent::StopBegin with 1 element"
  | .stopFailed => "struct variant CleanupEvent::StopFailed with 2 elements"
  | .removeBegin => "struct variant CleanupEvent::RemoveBegin with 1 element"
  | .removeFailed => "struct variant CleanupEvent::RemoveFailed with 2 elements"
  | .cleaned => "struct variant CleanupEvent::Cleaned with 2 elements"

/-- An event as a JSON value. -/
def encode : Event → Value
  | .stopBegin container =>
      .object [("type", .string Kind.stopBegin.tag), ("container", .string container)]
  | .stopFailed container detail =>
      .object [("type", .string Kind.stopFailed.tag), ("container", .string container),
        ("error", .string detail)]
  | .removeBegin container =>
      .object [("type", .string Kind.removeBegin.tag), ("container", .string container)]
  | .removeFailed container detail =>
      .object [("type", .string Kind.removeFailed.tag), ("container", .string container),
        ("error", .string detail)]
  | .cleaned container success =>
      .object [("type", .string Kind.cleaned.tag), ("container", .string container),
        ("success", .bool success)]

/-- Decodes the kind of an event. -/
def Kind.decode : Value → Except DataError Kind
  | .string tag =>
      match Kind.all.find? fun kind => kind.tag = tag with
      | some kind => .ok kind
      | none => .error (.unknownVariant tag (Kind.all.map Kind.tag))
  | other => wrongType "variant identifier" other

/-- Decodes the fields of an event of one field from the members of an object. -/
def containerMember (members : List (String × Value)) : Except DataError String := do
  required "container" (← memberAs? members "container" Value.asString)

/-- Decodes the fields of an event of two fields from the members of an object. -/
def pairMembers {α : Type} (members : List (String × Value)) (key : String)
    (decode : Value → Except DataError α) : Except DataError (String × α) := do
  let container ← memberAs? members "container" Value.asString
  let second ← memberAs? members key decode
  let container ← required "container" container
  return (container, ← required key second)

/-- Refuses an array with more elements than an event has fields. -/
def exactly (count : Nat) (elements : List Value) : Except DataError Unit :=
  if count < elements.length then .error (.extraElements elements.length count) else .ok ()

/-- Decodes the field of an event of one field from the elements of an array. -/
def containerElement (kind : Kind) (elements : List Value) : Except DataError String := do
  let container ← elementAs? elements 0 Value.asString
  let container ← requiredElement 0 kind.expectation container
  exactly 1 elements
  return container

/-- Decodes the fields of an event of two fields from the elements of an array. -/
def pairElements {α : Type} (kind : Kind) (elements : List Value)
    (decode : Value → Except DataError α) : Except DataError (String × α) := do
  let container ← elementAs? elements 0 Value.asString
  let container ← requiredElement 0 kind.expectation container
  let second ← elementAs? elements 1 decode
  let second ← requiredElement 1 kind.expectation second
  exactly 2 elements
  return (container, second)

/-- Decodes an event of a kind from the members of an object. -/
def decodeMembers (members : List (String × Value)) : Kind → Except DataError Event
  | .stopBegin => do return .stopBegin (← containerMember members)
  | .stopFailed => do
      let (container, detail) ← pairMembers members "error" Value.asString
      return .stopFailed container detail
  | .removeBegin => do return .removeBegin (← containerMember members)
  | .removeFailed => do
      let (container, detail) ← pairMembers members "error" Value.asString
      return .removeFailed container detail
  | .cleaned => do
      let (container, success) ← pairMembers members "success" Value.asBool
      return .cleaned container success

/-- Decodes an event of a kind from the elements of an array. -/
def decodeElements (elements : List Value) : Kind → Except DataError Event
  | .stopBegin => do return .stopBegin (← containerElement .stopBegin elements)
  | .stopFailed => do
      let (container, detail) ← pairElements .stopFailed elements Value.asString
      return .stopFailed container detail
  | .removeBegin => do return .removeBegin (← containerElement .removeBegin elements)
  | .removeFailed => do
      let (container, detail) ← pairElements .removeFailed elements Value.asString
      return .removeFailed container detail
  | .cleaned => do
      let (container, success) ← pairElements .cleaned elements Value.asBool
      return .cleaned container success

/-- Decodes an event; its kind is decoded first. -/
def decode : Value → Except DataError Event
  | .object members => do
      let kind ← memberAs? members "type" Kind.decode
      decodeMembers members (← required "type" kind)
  | .array (first :: fields) => do
      let kind ← Kind.decode first
      decodeElements fields kind
  | .array [] => .error (.missingField "type")
  | other => wrongType "internally tagged enum CleanupEvent" other

end Event

end Workload.Cleanup
