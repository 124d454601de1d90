/-!
# Command line tools

Everything outside the process is reached through command line tools. A tool is what it replies to a
list of arguments. A reply is the output of a process that ended, or the reason why none was
started.
-/

namespace Workload

namespace Tool

/-- What a process has left behind when it ended. -/
structure Output where
  /-- The exit status; absent if the process was ended by a signal. -/
  status : Option Int := some 0
  stdout : List UInt8 := []
  stderr : List UInt8 := []
deriving Repr, DecidableEq

/-- Whether a process ended well. -/
def Output.succeeded (output : Output) : Bool :=
  output.status = some 0

/-- Why a process was not started. -/
inductive LaunchFailure where
  /-- There is no such tool. -/
  | notFound
  | refused (detail : String)
deriving Repr, DecidableEq

/-- What a tool replies. -/
abbrev Reply := Except LaunchFailure Output

/-- A tool was called. -/
structure Call where
  tool : String
  arguments : List String
  reply : Reply
deriving Repr

/-- Whether a call started a process. -/
def Call.started (call : Call) : Bool :=
  match call.reply with
  | .ok _ => true
  | .error _ => false

/-- Whether a text cannot be handed to a process because it holds a NUL character. -/
def holdsNul (text : String) : Bool :=
  text.toList.contains '\x00'

/-- Why no process can be started with the given texts, whatever the tool. -/
def refusal? (texts : List String) : Option LaunchFailure :=
  if texts.any holdsNul then some (.refused "nul byte found in provided data") else none

end Tool

/-- A command line tool: what it replies to a list of arguments. -/
abbrev Tool := List String → Tool.Reply

/-- The reply of a tool, unless no process can be started with the arguments. -/
def Tool.reply (tool : Tool) (arguments : List String) : Tool.Reply :=
  match Tool.refusal? arguments with
  | some failure => .error failure
  | none => tool arguments

end Workload
