import Workload.Cleanup.Event
import Workload.CommandLine.Log
import Workload.Environment.Build
import Workload.Image
import Workload.Log.Line
import Workload.Main
import Workload.Preparation
import Workload.Run.Session
import Workload.Simulated.Bench
import Workload.Simulated.Clock
import Workload.Simulated.EngineTool
import Workload.Simulated.Stage
import Workload.Simulated.Store
import Workload.Task.File
import Workload.Proofs.Follow
import Workload.Proofs.Table
import Workload.Proofs.Run.Transition
import Workload.Proofs.Run.Reachability
import Workload.Proofs.Run.Order
import Workload.Proofs.Run.Containers
import Workload.Proofs.Run.Termination
import Workload.Proofs.Run.Ledger
import Workload.Proofs.Run.Cleanup
import Workload.Proofs.Run.Tally
import Workload.Proofs.Run.Startup
import Workload.Proofs.Run.Verdict
import Workload.Proofs.Run.Interrupt
import Workload.Proofs.Run.Reporting
import Workload.Proofs.Run.Phases
import Workload.Proofs.Secret.Resolution
import Workload.Proofs.Secret.Outcome
import Workload.Proofs.Secret.Order
import Workload.Proofs.Environment.Variables
import Workload.Proofs.Environment.Precedence
import Workload.Proofs.Environment.Collision
import Workload.Proofs.Environment.Building
import Workload.Proofs.Environment.Declared
import Workload.Proofs.Credentials.Region
import Workload.Proofs.Run.Secrecy
import Workload.Proofs.Run.Attempted
import Workload.Proofs.Simulated.Host
import Workload.Proofs.Simulated.Operations
import Workload.Proofs.Simulated.Rehearsal
import Workload.Proofs.Simulated.Leftovers
import Workload.Proofs.Simulated.Completion
import Workload.Proofs.Simulated.Schedule
import Workload.Proofs.Simulated.Resolve
import Workload.Proofs.Simulated.Lookups
import Workload.Proofs.Text.Digits
import Workload.Proofs.Text.Utf8
import Workload.Proofs.Decimal.Rounding
import Workload.Proofs.Decimal.Shortest
import Workload.Proofs.Json.Lexeme
import Workload.Proofs.Json.Float
import Workload.Proofs.Json.RoundTrip
import Workload.Proofs.Task.Names
import Workload.Proofs.Task.Document
import Workload.Proofs.Task.Envelope
import Workload.Proofs.Run.Announcement
import Workload.Proofs.Run.EarlyInterrupt
import Workload.Proofs.Run.ForcedExit
import Workload.Proofs.Run.Specifications
import Workload.Proofs.Port.Bindings
import Workload.Proofs.Attempt
import Workload.Proofs.Execution
import Workload.Proofs.Text.Lines
import Workload.Proofs.Text.Order
import Workload.Proofs.Text.Quoted
import Workload.Proofs.Text.Split
import Workload.Proofs.Text.Numeral
import Workload.Proofs.Environment.Override
import Workload.Proofs.Port.Override
import Workload.Proofs.Secret.Reference
import Workload.Proofs.Container.Arguments
import Workload.Proofs.Error
import Workload.Proofs.Run.CleanupEvents
