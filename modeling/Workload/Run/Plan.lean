import Workload.Container.Specification
import Workload.Environment.Basic
import Workload.Port.Bindings
import Workload.Settings

/-!
# The plan of a run

Everything is resolved before any container starts: ports, images and environment. The names of the
containers are scoped by application, environment and workload.
-/

namespace Workload.Run

open Container

/-- The application, environment and workload that scope the names of containers. -/
structure Identity where
  application : String
  environment : String
  workload : String
deriving Repr, DecidableEq

namespace Identity

/-- The role of the container that owns the shared network. -/
def pauseRole : String := "pause"

/-- The name of the container with the given role. -/
def containerName (identity : Identity) (role : String) : String :=
  role ++ "-" ++ identity.application ++ "-" ++ identity.environment ++ "-" ++ identity.workload

/-- The name of the pause container. -/
def pauseName (identity : Identity) : String :=
  identity.containerName pauseRole

/-- The name under which the task definition of a deployed workload is registered. -/
def family (identity : Identity) : String :=
  identity.application ++ "-" ++ identity.environment ++ "-" ++ identity.workload

end Identity

/-- What a run needs, all resolved. -/
structure Plan where
  identity : Identity
  pauseImage : String := Settings.default.pauseImage
  ports : Port.Bindings
  /-- The name and image of every container, in the order in which they start. -/
  containers : List (String × String)
  environment : Environment
deriving Repr, DecidableEq

/-- An application container of a run: its name in the task definition and its specification. -/
structure Application where
  name : String
  specification : Specification
deriving Repr, DecidableEq

namespace Plan

/-- The command of the pause container, which does nothing for ever. -/
def pauseCommand : List String := ["sleep", "infinity"]

/-- The specification of the pause container, which publishes all ports. -/
def pause (plan : Plan) : Specification where
  image := plan.pauseImage
  container := plan.identity.pauseName
  ports := plan.ports.entries.map fun (container, host) => { host, container }
  command := pauseCommand
  label := Identity.pauseRole
  color := .white

/-- The specification of one container, which joins the network of the pause container. -/
def specification (plan : Plan) (name image : String) (color : Color) : Specification where
  image := image
  container := plan.identity.containerName name
  network := some plan.identity.pauseName
  plainVariables := plan.environment.plainPart name
  secrets := plan.environment.secretPart name
  label := name
  color := color

/-- The application containers of a run, in the order in which they start. -/
def applications (plan : Plan) : List Application :=
  plan.containers.mapIdx fun index (name, image) =>
    { name, specification := plan.specification name image (colorAt index) }

end Plan

end Workload.Run
