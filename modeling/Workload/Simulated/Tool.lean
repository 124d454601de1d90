import Workload.Tool

/-!
# Stand-ins for tools

A stand-in replies by rules. The first rule whose words all occur among the arguments applies; where
none does the stand-in ends well and prints nothing. A rule may hold its answer back until a certain
call was made, and may keep the process from ever ending.
-/

namespace Workload.Simulated

/-- A rule of a stand-in. -/
structure Rule where
  /-- The words that have to occur among the arguments. -/
  words : List String := []
  output : Tool.Output := {}
  /-- The process never ends by itself. -/
  hangs : Bool := false
  /-- The answer is held back until a call with these words among its arguments was made. -/
  waitsFor : Option (List String) := none
deriving Repr, DecidableEq

/-- Whether all words occur among the arguments of a call. -/
def mentions (words arguments : List String) : Bool :=
  words.all fun word => arguments.contains word

/-- The rule that applies to a call. -/
def ruleFor (rules : List Rule) (arguments : List String) : Rule :=
  (rules.find? fun rule => mentions rule.words arguments).getD {}

/-- A tool that a stand-in plays. -/
def toolOf (rules : List Rule) : Tool :=
  fun arguments => .ok (ruleFor rules arguments).output

/-- A tool that cannot be started. -/
def brokenTool (failure : Tool.LaunchFailure) : Tool :=
  fun _ => .error failure

/-- The failure of a file that may not be executed. -/
def notExecutable : Tool.LaunchFailure := .refused "Permission denied (os error 13)"

/-- What a container run finds in its environment for the secrets that its arguments name. -/
def seenSecrets (given : List (String × String)) :
    List String → List (String × Option String)
  | [] => []
  | option :: rest =>
      match rest with
      | [] => []
      | key :: _ =>
          if option = "--env" && key ≠ "" && !key.toList.contains '=' then
            (key, (given.find? fun (name, _) => name = key).map Prod.snd) ::
              seenSecrets given rest
          else seenSecrets given rest

/-- A call that a stand-in has noted. -/
structure Invocation where
  tool : String
  arguments : List String
  /-- What the process found in its environment for the secrets that its arguments name. -/
  secrets : List (String × Option String) := []
deriving Repr, DecidableEq

/-- The note of a container run that was handed the given secrets. -/
def Invocation.ofRun (tool : String) (arguments : List String) (given : List (String × String)) :
    Invocation :=
  { tool, arguments, secrets := seenSecrets given arguments }

/-- The notes of those calls that started a process. -/
def Invocation.ofCalls (calls : List Tool.Call) : List Invocation :=
  (calls.filter Tool.Call.started).map fun call =>
    { tool := call.tool, arguments := call.arguments }

end Workload.Simulated
