import Workload.Proofs.Run.Launching
import Workload.Proofs.Run.Secrecy
import Workload.Proofs.Task.Names

/-!
# From a task definition to what the engine is handed

Images, ports and variables are resolved apart from each other and meet again under the name of a
container. Since names are distinct, what meets there belongs to one container: the variables of an
environment are found from what the container itself declares, and a table of variables is
determined by what is found in it. So the specification of an application is known from its own
container and its position, whatever the others are.
-/

namespace Workload.Environment

open Secret

/-- The variable that a container ends up with; a secret that takes precedence has its value. -/
def settled? (answers : Answers) (credentials : Credentials) (overrides : List Override)
    (container : Task.Container) (key : String) : Option Entry :=
  match precedent? credentials overrides container key with
  | some ⟨reference, .secret⟩ =>
      (answerOf answers reference).toOption.map fun value => ⟨value, .secret⟩
  | other => other

/-- Some interleaving of the fetches ends with the environment. -/
def Builds (answers : Answers) (credentials : Credentials) (overrides : List Override)
    (definition : Task.Definition) (environment : Environment) : Prop :=
  ∃ events building,
    follow (Building.step answers) (.begin definition credentials overrides) events =
      some building ∧
    building.result? = some (.ok environment)

/-- An override sets a variable of the given container. -/
def Override.concerns (item : Override) (container : String) : Bool :=
  item.container.all (· = container)

variable {answers : Answers} {credentials : Credentials} {overrides others : List Override}
  {definition : Task.Definition} {container : Task.Container} {environment : Environment}

theorem get?_eq (environment : Environment) (container key : String) :
    environment.get? container key =
      Table.find? key ((environment.entries? container).getD []) := by
  rw [get?]
  cases environment.entries? container <;> rfl

theorem get?_withSecrets (value : String → String) (environment : Environment)
    (container key : String) :
    (environment.withSecrets value).get? container key =
      (environment.get? container key).map fun entry =>
        if entry.origin = .secret then ⟨value entry.text, .secret⟩ else entry := by
  rw [get?, get?, entries?_withSecrets]
  cases environment.entries? container with
  | none => rfl
  | some entries => exact Table.find?_mapItems ..

namespace Tidy

theorem sorted (tidy : environment.Tidy) (container : String) :
    Table.Sorted ((environment.entries? container).getD []) := by
  cases known : environment.entries? container with
  | none => exact List.Pairwise.nil
  | some entries => exact tidy container entries known

theorem mem_select_iff (tidy : environment.Tidy) {wanted : Origin → Bool}
    {container key value : String} :
    (key, value) ∈ environment.select wanted container ↔
      ∃ origin, environment.get? container key = some ⟨value, origin⟩ ∧ wanted origin := by
  simp only [get?_eq, Table.find?_eq_some_iff (tidy.sorted container).nodup_keys, select,
    List.mem_filterMap, Option.ite_none_right_eq_some, Option.some.injEq, Prod.mk.injEq]
  constructor
  · rintro ⟨⟨_, entry⟩, member, chosen, rfl, rfl⟩
    exact ⟨entry.origin, member, chosen⟩
  · rintro ⟨origin, member, chosen⟩
    exact ⟨_, member, chosen, rfl, rfl⟩

theorem mem_plainPart_iff (tidy : environment.Tidy) {container key value : String} :
    (key, value) ∈ environment.plainPart container ↔
      ∃ origin, environment.get? container key = some ⟨value, origin⟩ ∧ origin ≠ .secret := by
  rw [plainPart, tidy.mem_select_iff]
  simp

theorem mem_secretPart_iff (tidy : environment.Tidy) {container key value : String} :
    (key, value) ∈ environment.secretPart container ↔
      environment.get? container key = some ⟨value, .secret⟩ := by
  rw [secretPart, tidy.mem_select_iff]
  simp

theorem sorted_select (tidy : environment.Tidy) (wanted : Origin → Bool) (container : String) :
    Table.Sorted (environment.select wanted container) := by
  have ascending := List.pairwise_map.mp (tidy.sorted container)
  rw [Table.Sorted, Table.keys, List.pairwise_map]
  apply ascending.filterMap
  rintro ⟨key, entry⟩ ⟨later, other⟩ less first chosen second chosenToo
  simp only [Option.ite_none_right_eq_some, Option.some.injEq] at chosen chosenToo
  rcases chosen with ⟨_, rfl⟩
  rcases chosenToo with ⟨_, rfl⟩
  exact less

theorem nodup_keys_parts (tidy : environment.Tidy) (container : String) :
    (Table.keys (environment.plainPart container) ++
      Table.keys (environment.secretPart container)).Nodup := by
  rw [List.nodup_append]
  refine ⟨(tidy.sorted_select _ container).nodup_keys, (tidy.sorted_select _ container).nodup_keys,
    ?_⟩
  rintro key plain _ secret rfl
  exact tidy.parts_disjoint secret plain

/-- What is found in a container determines its parts. -/
theorem select_eq {other : Environment} (tidy : environment.Tidy) (otherTidy : other.Tidy)
    {container : String} (same : ∀ key, environment.get? container key = other.get? container key)
    (wanted : Origin → Bool) :
    environment.select wanted container = other.select wanted container := by
  have entries : (environment.entries? container).getD [] = (other.entries? container).getD [] := by
    apply (tidy.sorted container).ext (otherTidy.sorted container)
    simpa only [get?_eq] using same
  rw [select, entries, select]

end Tidy

theorem settled?_congr
    (same : overrides.filter (·.concerns container.name) =
      others.filter (·.concerns container.name)) (key : String) :
    settled? answers credentials overrides container key =
      settled? answers credentials others container key := by
  have last : ∀ items : List Override,
      items.reverse.find? (fun item => item.sets container.name key) =
        (items.filter (·.concerns container.name)).reverse.find? fun item => item.key = key := by
    intro items
    rw [← List.filter_reverse, List.find?_filter]
    congr 1
    funext item
    simp [Override.sets, Override.concerns, Bool.and_comm]
  simp only [settled?, precedent?, last, same]

namespace Builds

theorem tidy (built : Builds answers credentials overrides definition environment) :
    environment.Tidy := by
  rcases built with ⟨events, building, path, ended⟩
  rcases resolved_of_built path ended with ⟨prepared, _, _, values, success, _, _, _, rfl⟩
  rw [fillSecrets_eq_withSecrets]
  exact (Run.tidy_of_prepare success).withSecrets _

/-- The variables of a container are settled by its own declarations. -/
theorem get?_eq_settled? (built : Builds answers credentials overrides definition environment)
    (distinct : definition.names.Nodup) (member : container ∈ definition.containers)
    (key : String) :
    environment.get? container.name key =
      settled? answers credentials overrides container key := by
  rcases built with ⟨events, building, path, ended⟩
  rcases resolved_of_built path ended with
    ⟨prepared, references, resolution, values, success, _, reached, settled, rfl⟩
  have found : prepared.get? container.name key =
      precedent? credentials overrides container key := by
    rcases registered_of_prepare success with ⟨collected, rfl, registered⟩
    exact get?_of_registered distinct member registered key
  rw [fillSecrets_eq_withSecrets, get?_withSecrets, settled?, ← found]
  rcases known : prepared.get? container.name key with _ | ⟨text, origin⟩
  · rfl
  · cases origin with
    | plain => rfl
    | operator => rfl
    | secret =>
        have pending := mem_references_of_placeholder success known rfl
        rcases reached.values_of_ok settled pending with ⟨value, given, answered⟩
        simp [given, answered, Except.toOption]

end Builds

end Workload.Environment

namespace Workload.Run

open Container Environment

/-- The specification of an application has what its container asks for, and nothing else. -/
structure Fits (request : Request) (environment : Environment) (container : Task.Container)
    (specification : Specification) : Prop where
  named : specification.container = request.identity.containerName container.name
  image : specification.image =
    (Table.find? container.name request.images).getD container.image
  network : specification.network = some request.identity.pauseName
  ports : specification.ports = []
  command : specification.command = []
  once : (Table.keys specification.plainVariables ++ Table.keys specification.secrets).Nodup
  plain : ∀ key value, (key, value) ∈ specification.plainVariables ↔
    ∃ origin, environment.get? container.name key = some ⟨value, origin⟩ ∧ origin ≠ .secret
  secret : ∀ key value, (key, value) ∈ specification.secrets ↔
    environment.get? container.name key = some ⟨value, .secret⟩

/-- The specification of the pause container publishes all ports and does nothing else. -/
structure PauseFits (request : Request) (definition : Task.Definition)
    (specification : Specification) : Prop where
  named : specification.container = request.identity.pauseName
  network : specification.network = none
  ports : specification.ports.map (fun port => (port.container, port.host)) =
    (Port.Bindings.resolve definition request.portOverrides).entries
  ascending : (specification.ports.map PublishedPort.container).Pairwise (· < ·)
  plain : specification.plainVariables = []
  secret : specification.secrets = []

/-- Two requests ask the same of the container of a name. -/
structure AgreeOn (container : String) (first second : Request) : Prop where
  identity : first.identity = second.identity
  image : Table.find? container first.images = Table.find? container second.images
  overrides : first.variableOverrides.filter (·.concerns container) =
    second.variableOverrides.filter (·.concerns container)

variable {request other : Request} {settings : Settings}
  {definition otherDefinition : Task.Definition}
  {environment otherEnvironment : Environment} {answers : Secret.Answers}
  {credentials : Credentials} {container : Task.Container}

theorem getElem?_applications (request : Request) (settings : Settings)
    (definition : Task.Definition) (environment : Environment) (index : Nat) :
    (Preparation.plan request settings definition environment).applications[index]? =
      (definition.containers[index]?).map fun container =>
        { name := container.name
          specification :=
            (Preparation.plan request settings definition environment).specification container.name
              ((Table.find? container.name request.images).getD container.image)
              (colorAt index) } := by
  simp [Plan.applications, Preparation.plan, Image.resolve, Function.comp_def]

theorem fits_specification (tidy : environment.Tidy) (request : Request) (settings : Settings)
    (definition : Task.Definition) (container : Task.Container) (color : Color) :
    Fits request environment container
      ((Preparation.plan request settings definition environment).specification container.name
        ((Table.find? container.name request.images).getD container.image) color) := by
  refine ⟨rfl, rfl, rfl, rfl, rfl, tidy.nodup_keys_parts container.name, ?_, ?_⟩
  · intro key value
    exact tidy.mem_plainPart_iff
  · intro key value
    exact tidy.mem_secretPart_iff

theorem forall₂_fits (tidy : environment.Tidy) (request : Request) (settings : Settings)
    (definition : Task.Definition) :
    List.Forall₂ (Fits request environment) definition.containers
      ((Preparation.plan request settings definition environment).applications.map
        Application.specification) := by
  have same : ((Preparation.plan request settings definition environment).applications.map
      Application.specification) = definition.containers.mapIdx fun index container =>
        (Preparation.plan request settings definition environment).specification container.name
          ((Table.find? container.name request.images).getD container.image) (colorAt index) := by
    apply List.ext_getElem?
    intro index
    simp [getElem?_applications, Function.comp_def]
  rw [same, List.forall₂_iff_get]
  refine ⟨by simp, ?_⟩
  intro index _ _
  simpa using fits_specification tidy request settings definition _ _

theorem pauseFits (request : Request) (settings : Settings) (definition : Task.Definition)
    (environment : Environment) :
    PauseFits request definition
      (Preparation.plan request settings definition environment).pause := by
  refine ⟨rfl, rfl, ?_, ?_, rfl, rfl⟩
  · simp [Plan.pause, Preparation.plan, Function.comp_def]
  · have ascending := Table.sorted_ofList (Port.declared definition ++
      request.portOverrides.map fun override => (override.container, override.host))
    simpa [Plan.pause, Preparation.plan, Function.comp_def, Port.Bindings.resolve, Table.Sorted,
      Table.keys] using ascending

/-- What is asked of a container is all that its application depends on, beside its position. -/
theorem application_eq (accepted : definition.check = .ok ())
    (otherAccepted : otherDefinition.check = .ok ())
    (built : Builds answers credentials request.variableOverrides definition environment)
    (otherBuilt : Builds answers credentials other.variableOverrides otherDefinition
      otherEnvironment)
    (agree : AgreeOn container.name request other) {index : Nat}
    (declared : definition.containers[index]? = some container)
    (otherDeclared : otherDefinition.containers[index]? = some container) :
    (Preparation.plan request settings definition environment).applications[index]? =
      (Preparation.plan other settings otherDefinition otherEnvironment).applications[index]? := by
  have found : ∀ key, environment.get? container.name key =
      otherEnvironment.get? container.name key := by
    intro key
    rw [built.get?_eq_settled? (Task.Definition.check_eq_ok_iff.mp accepted).2.1
        (List.mem_of_getElem? declared),
      otherBuilt.get?_eq_settled? (Task.Definition.check_eq_ok_iff.mp otherAccepted).2.1
        (List.mem_of_getElem? otherDeclared),
      settled?_congr agree.overrides]
  have parts := built.tidy.select_eq otherBuilt.tidy found
  rw [getElem?_applications, getElem?_applications, declared, otherDeclared]
  simp [Plan.specification, Preparation.plan, plainPart, secretPart, parts, agree.identity,
    agree.image]

/--
A run whose pause container is confirmed hands the engine one specification of the pause container
and one of an application for each container of the definition, and starts the applications in the
order of the definition. Each fits its own container and nothing else: where another request for
another definition asks the same of a container, the same specification is handed over for it.
-/
theorem handed_specifications_fit {events : List Event} {state : State} {result : Option RunError}
    (accepted : definition.check = .ok ())
    (built : Builds answers credentials request.variableOverrides definition environment)
    (path : Reaches (Preparation.plan request settings definition environment) events state)
    (confirmed : .pollAnswers (.ok true) ∈ events) (finished : state.result? = some result) :
    ∃ pause applications,
      (handed (Preparation.plan request settings definition environment) events).Perm
        (pause :: applications) ∧
      PauseFits request definition pause ∧
      List.Forall₂ (Fits request environment) definition.containers applications ∧
      state.launched.map (fun launched => launched.application.specification) = applications ∧
      ∀ (other : Request) otherDefinition otherEnvironment (index : Nat)
          (container : Task.Container),
        otherDefinition.check = .ok () →
        Builds answers credentials other.variableOverrides otherDefinition otherEnvironment →
        AgreeOn container.name request other →
        definition.containers[index]? = some container →
        otherDefinition.containers[index]? = some container →
        applications[index]? =
          ((Preparation.plan other settings otherDefinition
            otherEnvironment).applications.map Application.specification)[index]? := by
  refine ⟨_, _, path.handed_perm confirmed finished, pauseFits ..,
    forall₂_fits built.tidy request settings definition, ?_, ?_⟩
  · rw [← path.launched_of_finished confirmed finished, List.map_map]
    rfl
  · intro other otherDefinition otherEnvironment index container otherAccepted otherBuilt agree
      declared otherDeclared
    rw [List.getElem?_map, List.getElem?_map,
      application_eq accepted otherAccepted built otherBuilt agree declared otherDeclared]

/-- A request with a built image and two ports. -/
def publishingRequest : Request :=
  { crossedRequest with
    images := [("web", "web:built")]
    portOverrides := [⟨8443, 443⟩, ⟨8080, 80⟩] }

/-- A run of two applications, the second of which is called first and ends last. -/
def pairedEvents : List Event :=
  [.begin, .call .pause, .poll, .pollAnswers (.ok true), .launch, .launch, .call (.application 1),
    .call (.application 0), .callReturns (.application 0) (.ok ()), .notice (.application 0),
    .callReturns (.application 1) (.ok ()), .notice (.application 1), .noticeAllEnded,
    .callReturns .pause (.error .cancelled), .drained, .close, .stop (.application 0),
    .stop (.application 1), .stopAnswers (.application 1) (.ok ()),
    .stopAnswers (.application 0) (.ok ()), .remove (.application 0),
    .removeAnswers (.application 0) (.ok ()), .remove (.application 1),
    .removeAnswers (.application 1) (.ok ()), .stop .pause, .stopAnswers .pause (.ok ()),
    .remove .pause, .removeAnswers .pause (.ok ()), .finish]

/-- The environment of the two containers once their secrets are fetched. -/
def crossedEnvironment : Environment where
  containers :=
    [("web", identityEntries regionalSession ++
        [("DB", ⟨"/shop/token", .secret⟩), ("LOG", ⟨"info", .plain⟩),
          ("TOKEN", ⟨"swordfish", .secret⟩)]),
      ("worker", identityEntries regionalSession ++ [("DB", ⟨"/shop/token", .operator⟩)])]

theorem paired_specifications_fit :
    ∃ pause applications,
      (handed (Preparation.plan publishingRequest .default contested crossedEnvironment)
        pairedEvents).Perm (pause :: applications) ∧
      pause.ports.map (fun port => (port.container, port.host)) = [(8080, 80), (8443, 443)] ∧
      applications.map Specification.image = ["web:built", ""] ∧
      applications.map Specification.secrets =
        [[("DB", "/shop/token"), ("TOKEN", "swordfish")], []] := by
  have built : Builds crossedAnswers regionalSession publishingRequest.variableOverrides contested
      crossedEnvironment :=
    ⟨crossedFetches, _, rfl, rfl⟩
  have path : Reaches (Preparation.plan publishingRequest .default contested crossedEnvironment)
      pairedEvents _ :=
    rfl
  have confirmed : .pollAnswers (.ok true) ∈ pairedEvents := by simp [pairedEvents]
  rcases handed_specifications_fit rfl built path confirmed rfl with
    ⟨pause, applications, all, published, _, spawned, _⟩
  refine ⟨pause, applications, all, published.ports.trans rfl, ?_, ?_⟩
  · rw [← spawned]
    rfl
  · rw [← spawned]
    rfl

end Workload.Run
