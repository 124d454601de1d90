import Workload.Execution
import Workload.Proofs.Preparation
import Workload.Proofs.Run.ForcedExit

/-!
# Nothing starts until everything is resolved

The engine is only called by the run of a command, and a command that is not fully prepared has no
run. So whatever stage fails, the command ends with its error and nothing has been started. Once
everything is resolved, the run alone decides how the command ends.
-/

namespace Workload

/-- What the engine was called for, if the occurrence is a call. -/
def Run.Occurrence.engineCall? : Run.Occurrence → Option (Run.Verb × String)
  | .called verb container => some (verb, container)
  | _ => none

namespace Execution

/-- All calls of the engine on behalf of a command. -/
def engineCalls (execution : Execution) : List (Run.Verb × String) :=
  match execution.session with
  | some session => session.run.history.filterMap Run.Occurrence.engineCall?
  | none => []

variable {surroundings : Surroundings} {resolver : Secret.Resolver} {request : Request}
  {execution final : Execution} {events : List Run.Session.Event}

theorem eq_of_follow_unstarted (path : follow step execution events = some final)
    (unstarted : execution.session = none) : final = execution := by
  cases events with
  | nil =>
      cases path
      rfl
  | cons event events =>
      rw [follow, step, unstarted] at path
      cases path

theorem session_of_follow {session : Run.Session}
    (path : follow step execution events = some final)
    (started : execution.session = some session) :
    ∃ later, follow Run.Session.step session events = some later ∧
      final = { execution with session := some later } := by
  induction events generalizing execution session with
  | nil =>
      cases path
      exact ⟨session, rfl, by rw [← started]⟩
  | cons event events hypothesis =>
      rcases follow_cons_eq_some.mp path with ⟨next, taken, rest⟩
      rw [step, started] at taken
      simp only [Option.bind_eq_bind, Option.bind_some, Option.bind_eq_some_iff, Option.pure_def,
        Option.some.injEq] at taken
      rcases taken with ⟨after, taken, rfl⟩
      rcases hypothesis rest rfl with ⟨later, onward, rfl⟩
      exact ⟨later, follow_cons_eq_some.mpr ⟨after, taken, onward⟩, rfl⟩

/-- Without a preparation that succeeded there is no run, and the command ends with the error. -/
theorem ended_of_error {fault : RunError}
    (path : follow step (.start surroundings resolver request) events = some final)
    (failed : (Preparation.prepare surroundings resolver request).result = .error fault) :
    final.result? = some (.error fault) ∧ final.engineCalls = [] := by
  have unstarted : (start surroundings resolver request).session = none := by
    rw [start, failed]
    rfl
  rw [eq_of_follow_unstarted path unstarted]
  constructor
  · simp only [result?, start, failed]
  · rw [engineCalls, unstarted]

theorem started_of_ok {launch : Launch}
    (path : follow step (.start surroundings resolver request) events = some final)
    (success : (Preparation.prepare surroundings resolver request).result = .ok launch) :
    ∃ session runEvents, final.session = some session ∧
      Run.Reaches launch.plan runEvents session.run ∧
      final.result? = session.run.result?.map resultOfRun := by
  have started : (start surroundings resolver request).session =
      some { run := .initial launch.plan } := by
    rw [start, success]
    rfl
  rcases session_of_follow path started with ⟨session, onward, rfl⟩
  have path : Run.Session.Reaches launch.plan events session := onward
  rcases path.exists_run with ⟨runEvents, reached⟩
  refine ⟨session, runEvents, rfl, reached, ?_⟩
  simp only [result?, start, success, Option.bind_some]

theorem preparation_of_follow
    (path : follow step (.start surroundings resolver request) events = some final) :
    final.preparation = Preparation.prepare surroundings resolver request := by
  refine follow_induction (fun _ execution => execution.preparation =
    Preparation.prepare surroundings resolver request) rfl ?_ path
  intro events execution event next _ same taken
  simp only [step, Option.bind_eq_bind, Option.bind_eq_some_iff, Option.pure_def,
    Option.some.injEq] at taken
  rcases taken with ⟨_, _, _, _, rfl⟩
  exact same

theorem result?_eq_ok_iff {session : Run.Session}
    (decided : final.result? = session.run.result?.map resultOfRun) :
    final.result? = some (.ok ()) ↔ session.run.result? = some none := by
  rw [decided, Option.map_eq_some_iff]
  constructor
  · rintro ⟨_ | fault, ended, same⟩
    · exact ended
    · cases same
  · exact fun ended => ⟨none, ended, rfl⟩

end Execution

open Preparation Execution

/--
If a stage fails, the command ends with the error of the first that does and the engine is never
called. If none does, a run of the plan that the resolved environment belongs to is started, and the
command succeeds just if this run does. Only the AWS tool is called before, and for a secret only if
all stages before the resolution of secrets have succeeded and the secret is still needed.
-/
theorem nothing_starts_until_resolved {surroundings : Surroundings} {resolver : Secret.Resolver}
    {request : Request} {events : List Run.Session.Event} {final : Execution}
    (follows : resolver.Follows)
    (path : follow Execution.step (.start surroundings resolver request) events = some final) :
    ((∃ fault, FirstFailure surroundings request fault) →
      final.engineCalls = [] ∧
        ∃ fault, FirstFailure surroundings request fault ∧
          final.result? = some (.error fault)) ∧
    ((∀ fault, ¬ FirstFailure surroundings request fault) →
      ∃ loaded obtained prepared references environment,
        Passed surroundings request loaded obtained prepared references ∧
        Environment.Builds (clientFor surroundings request).answers obtained
          request.variableOverrides loaded environment ∧
        ∃ session runEvents, final.session = some session ∧
          Run.Reaches (launchOf surroundings request loaded environment).plan runEvents
            session.run ∧
          final.result? = session.run.result?.map resultOfRun ∧
          (final.result? = some (.ok ()) ↔ session.run.result? = some none)) ∧
    ∀ call ∈ final.preparation.calls,
      call.tool = (clientFor surroundings request).path ∧
        (call.isLookup → ∃ loaded obtained prepared references,
          Passed surroundings request loaded obtained prepared references ∧
            ∃ reference ∈ references, ∃ store, Secret.storeOf reference = .ok store ∧
              call.arguments = Aws.secretArguments reference store ++
                (clientFor surroundings request).regionArguments) := by
  have stages := prepare_cases follows surroundings request
  refine ⟨?_, ?_, ?_⟩
  · rintro ⟨other, otherFails⟩
    rcases stages with ⟨fault, fails, failed⟩ | ⟨sound, _⟩
    · rcases ended_of_error path failed with ⟨ended, untouched⟩
      exact ⟨untouched, fault, fails, ended⟩
    · exact absurd otherFails (sound other)
  · intro sound
    rcases stages with
      ⟨fault, fails, _⟩ | ⟨_, loaded, obtained, prepared, references, environment, passed, builds,
        success⟩
    · exact absurd fails (sound fault)
    · rcases started_of_ok path success with ⟨session, runEvents, under, reached, decided⟩
      exact ⟨loaded, obtained, prepared, references, environment, passed, builds, session,
        runEvents, under, reached, decided, result?_eq_ok_iff decided⟩
  · intro call member
    rw [preparation_of_follow path] at member
    exact lookup_of_mem_calls follows member

/-- A task definition whose only container has a secret. -/
def secretText : String :=
  "\x7b\"containerDefinitions\":[\x7b\"name\":\"web\",\"secrets\":[\x7b\"name\":\"DB\"," ++
    "\"valueFrom\":\"/shop/db\"\x7d]\x7d]\x7d"

/-- What that text is read as. -/
def secretDefinition : Task.Definition where
  containers := [{ name := "web", secrets := [⟨"DB", "/shop/db"⟩] }]

/-- A process environment with a key pair. -/
def keyPair : ProcessEnvironment :=
  [(Credentials.accessKeyIdName, Text.encode "AK"),
    (Credentials.secretAccessKeyName, Text.encode "SK")]

/-- A machine with that text in all its files, a key pair, and the given tool. -/
def machineWith (tool : Tool) : Surroundings where
  environment := keyPair
  fileAt _ := .bytes (Text.encode secretText)
  toolAt _ := tool

/-- A tool that denies everything. -/
def denyingTool : Tool :=
  fun _ => .ok { status := some 255, stderr := Text.encode "denied" }

/-- A tool that gives the same value for everything. -/
def answeringTool : Tool :=
  fun _ => .ok { stdout := Text.encode "swordfish\n" }

/-- A request for a task definition in a file. -/
def requestFromFile : Request where
  identity := { application := "shop", environment := "test", workload := "api" }
  definitionPath := some "task.json"

theorem passed_machineWith (tool : Tool) :
    ∃ prepared, Passed (machineWith tool) requestFromFile secretDefinition
      ⟨"AK", "SK", none, none⟩ prepared ["/shop/db"] := by
  have read : Task.Definition.ofFile "task.json" (.bytes (Text.encode secretText)) =
      .ok secretDefinition := eq_ok_of_toOption (by decide +kernel)
  have available : Credentials.availableIn keyPair = true := by decide
  have given : Credentials.ofEnvironment keyPair = .ok ⟨"AK", "SK", none, none⟩ :=
    eq_ok_of_toOption (by decide +kernel)
  have success : Environment.prepare secretDefinition ⟨"AK", "SK", none, none⟩ [] =
      .ok (_, ["/shop/db"]) := rfl
  refine ⟨_, rfl, ?_, ?_, success⟩
  · simp only [definition, requestFromFile, definitionFromFile, machineWith, read,
      Attempt.result_within, Attempt.result_bind, Attempt.result_record, Attempt.result_ofResult]
    rfl
  · rw [credentials, machineWith, if_pos available, Attempt.result_ofResult, given]

/-- The container runs and ends well, and everything is cleaned up. -/
def completedEvents : List Run.Event :=
  [.begin, .call .pause, .poll, .pollAnswers (.ok true), .launch, .call (.application 0),
    .callReturns (.application 0) (.ok ()), .notice (.application 0), .noticeAllEnded,
    .callReturns .pause (.error .cancelled), .drained, .close, .stop (.application 0),
    .stopAnswers (.application 0) (.ok ()), .remove (.application 0),
    .removeAnswers (.application 0) (.ok ()), .stop .pause, .stopAnswers .pause (.ok ()),
    .remove .pause, .removeAnswers .pause (.ok ()), .finish]

/-- Whatever its environment, the container of that definition can be run to its end. -/
theorem exists_completed (tool : Tool) (environment : Environment)
    (preparation : Attempt RunError Launch) :
    ∃ session : Run.Session,
      follow Execution.step
          ⟨preparation, some { run := .initial (launchOf (machineWith tool) requestFromFile
            secretDefinition environment).plan }⟩
          (completedEvents.map .run) = some ⟨preparation, some session⟩ ∧
        session.run.result? = some none :=
  ⟨_, rfl, rfl⟩

theorem secret_decides_whether_run_starts :
    ∃ resolver : Secret.Resolver, resolver.Follows ∧
      ((Execution.start (machineWith denyingTool) resolver requestFromFile).engineCalls = [] ∧
        (Execution.start (machineWith denyingTool) resolver requestFromFile).result? =
          some (.error (.secret (.fetch "/shop/db" (.store (.command "denied")))))) ∧
      ∃ final, follow Execution.step (.start (machineWith answeringTool) resolver requestFromFile)
          (completedEvents.map .run) = some final ∧
        final.result? = some (.ok ()) := by
  rcases Secret.Resolver.exists_follows with ⟨resolver, follows⟩
  refine ⟨resolver, follows, ?_, ?_⟩
  · rcases passed_machineWith denyingTool with ⟨prepared, passed⟩
    have denied : Secret.answerOf (clientFor (machineWith denyingTool) requestFromFile).answers
        "/shop/db" = .error (.store (.command "denied")) := by decide +kernel
    have path : follow Execution.step (.start (machineWith denyingTool) resolver requestFromFile)
        [] = some (.start (machineWith denyingTool) resolver requestFromFile) := rfl
    have fails := passed.firstFailure_iff.mpr
      ⟨"/shop/db", List.mem_singleton_self _, _, denied, rfl⟩
    rcases (nothing_starts_until_resolved follows path).1 ⟨_, fails⟩ with
      ⟨untouched, fault, first, ended⟩
    -- There is only one secret, so the error is that of its store.
    rcases passed.firstFailure_iff.mp first with ⟨reference, pending, cause, failed, rfl⟩
    cases List.mem_singleton.mp pending
    cases denied.symm.trans failed
    exact ⟨untouched, ended⟩
  · rcases passed_machineWith answeringTool with ⟨prepared, passed⟩
    have answered : Secret.answerOf (clientFor (machineWith answeringTool) requestFromFile).answers
        "/shop/db" = .ok "swordfish" := by decide +kernel
    have sound := passed.not_firstFailure (by simp [answered, Except.isOk, Except.toBool])
    rcases prepare_cases follows (machineWith answeringTool) requestFromFile with
      ⟨fault, fails, _⟩ | ⟨_, loaded, obtained, _, _, built, again, _, success⟩
    · exact absurd fails (sound fault)
    cases passed.definition.symm.trans again.definition
    rcases exists_completed answeringTool built
        (prepare (machineWith answeringTool) resolver requestFromFile) with
      ⟨session, completed, finished⟩
    have path : follow Execution.step
        (.start (machineWith answeringTool) resolver requestFromFile)
        (completedEvents.map .run) =
          some ⟨prepare (machineWith answeringTool) resolver requestFromFile, some session⟩ := by
      rw [Execution.start, success]
      exact completed
    rcases (nothing_starts_until_resolved follows path).2.1 sound with
      ⟨_, _, _, _, _, _, _, _, _, under, _, _, succeeds⟩
    cases under
    exact ⟨_, path, succeeds.mpr finished⟩

end Workload
