import Workload.Engine
import Workload.Text.Blank

/-!
# Settings of a run

Settings come from the operator, else from the process environment, else from the defaults.
-/

namespace Workload

/-- What shapes a local run without being part of the workload. -/
structure Settings where
  pauseImage : String
  /-- Milliseconds between two checks whether the pause container runs. -/
  pollInterval : Nat
  awsPath : String
  engine : Engine
deriving Repr, DecidableEq

namespace Settings

/-- The settings when nothing else is said. -/
def default : Settings where
  pauseImage := "public.ecr.aws/amazonlinux/amazonlinux:2023"
  pollInterval := 1000
  awsPath := "aws"
  engine := .docker

/-- The variable of the image of the pause container. -/
def pauseImageName : String := "LOCALRUN_PAUSE_IMAGE"

/-- The variable of the poll interval in milliseconds. -/
def pollIntervalName : String := "LOCALRUN_POLL_INTERVAL_MS"

/-- The variable of the path of the AWS tool. -/
def awsPathName : String := "LOCALRUN_AWS_PATH"

/-- The greatest poll interval in milliseconds. -/
def maxPollInterval : Nat := UInt64.size - 1

/-- A positive number of milliseconds that fits 64 bits. -/
def readInterval? (text : String) : Option Nat :=
  match Text.readNumeral? maxPollInterval text.toList with
  | some 0 => none
  | other => other

/-- The text of a variable that holds something other than blanks. -/
def nonBlank? (environment : ProcessEnvironment) (name : String) : Option String :=
  (environment.text? name).filter fun text => Text.trim text != ""

/-- The settings from the process environment and the operator's choice of engine. -/
def read (environment : ProcessEnvironment) (chosen : Option Engine) : Settings where
  pauseImage := (nonBlank? environment pauseImageName).getD default.pauseImage
  pollInterval := ((environment.text? pollIntervalName).bind readInterval?).getD
    default.pollInterval
  awsPath := (nonBlank? environment awsPathName).getD default.awsPath
  engine := Engine.detect environment chosen

/-- The text of a number of milliseconds, in seconds from one second on. -/
def durationText (milliseconds : Nat) : String :=
  if milliseconds < 1000 then Text.decimal milliseconds ++ "ms"
  else
    let rest := milliseconds % 1000
    let digits := Text.decimalDigits (1000 + rest) |>.drop 1
    let shown := (digits.reverse.dropWhile (· = '0')).reverse
    let fraction := if shown.isEmpty then [] else '.' :: shown
    Text.decimal (milliseconds / 1000) ++ String.ofList fraction ++ "s"

/-- The warnings about unusable variables. -/
def warnings (environment : ProcessEnvironment) : List String :=
  match environment.text? pollIntervalName with
  | none => []
  | some text =>
      if (readInterval? text).isSome then []
      else
        ["Invalid " ++ pollIntervalName ++ " value '" ++ text ++ "', using " ++
          durationText default.pollInterval]

/-- A description of settings for the log. -/
def describe (settings : Settings) : String :=
  "RunLocalConfig \x7b pause_image: " ++ Text.quoted settings.pauseImage ++
    ", poll_interval: " ++ durationText settings.pollInterval ++
    ", aws_path: " ++ Text.quoted settings.awsPath ++
    ", runtime: " ++ settings.engine.title ++ " \x7d"

end Settings

end Workload
