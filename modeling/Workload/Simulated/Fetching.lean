import Workload.Aws
import Workload.Simulated.Processes
import Workload.Simulated.Store

/-!
# Fetching secrets with a stand-in

The fetches of a resolution are processes of a stand-in, all started at once. The order in which
they end is the order in which the resolution sees their answers.
-/

namespace Workload.Simulated

open Secret

/-- A resolution and the processes of its fetches. -/
structure Fetching where
  resolution : Resolution
  processes : Processes String

namespace Fetching

/-- Lets processes note their calls and end until there is an outcome or nothing moves any more. -/
def follow (answers : Answers) : Nat → Fetching → Fetching
  | 0, fetching => fetching
  | bound + 1, fetching =>
      if fetching.resolution.outcome.isSome then fetching
      else
        match fetching.processes.note? with
        | some (_, processes) => follow answers bound { fetching with processes }
        | none =>
            match fetching.processes.end? with
            | some (process, processes) =>
                let resolution := takeAll answers fetching.resolution
                  [.answer process.purpose, .see]
                follow answers bound { resolution, processes }
            | none => fetching

end Fetching

/-- Follows a resolution whose fetches are processes of a stand-in with the given rules. -/
def resolver (client : Aws) (rules : List Rule) (notes : List Invocation) : Resolver :=
  fun answers references =>
    let fresh := Resolution.initial references
    let started := takeAll answers fresh (fresh.waiting.map .start)
    let asked := takeAll answers started
      (started.fetches.map fun fetch => .ask fetch.reference)
    let processes := asked.fetches.foldl
      (fun (processes : Processes String) fetch =>
        let arguments :=
          Aws.secretArguments fetch.reference fetch.store ++ client.regionArguments
        processes.start fetch.reference { tool := client.path, arguments }
          (ruleFor rules arguments))
      { notes }
    let final := Fetching.follow answers (2 * asked.fetches.length + 1)
      { resolution := asked, processes }
    takeAll answers final.resolution [.conclude]

end Workload.Simulated
