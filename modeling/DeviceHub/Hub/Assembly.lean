import DeviceHub.Hub.Calls

/-
  Putting hubs together.

  Key definitions include:
    * `Assembly`
    * `Assembly.registerDestinations`
    * `Assembly.registerModules`
    * `Assembly.hub`
-/

namespace DeviceHub

/- Which components a hub has below its supervisor. -/
structure Wings where
  devices : Bool
  assets : Bool
  deriving DecidableEq, Repr

/- What a hub is made of; there are no files by default. -/
structure Assembly where
  name : String
  wings : Wings
  backend : Backend
  pipelines : List PipelineConfig := []
  destinations : List Destination := []
  router : Router := .new .empty none
  assets : AssetFederation := .empty
  files : FileView := fun _ => .missing
  throttle : Nat := 0
  via : Option Nat := none

namespace Assembly

------------------------------------------------------------
-- Registration
------------------------------------------------------------

/- Register destinations, each if it is to be routed. -/
def registerDestinations
    (r : Router)
    (place : Nat) :
    List (Destination × Bool) →
      List (Except CommandError Unit) × Router
  | [] => ([], r)
  | (_, false) :: rest =>
      registerDestinations r (place + 1) rest
  | (d, true) :: rest =>
      let answer := r.register d.id place
      let (answers, r) := registerDestinations
        (answer.toOption.getD r) (place + 1) rest
      (answer.map (fun _ => ()) :: answers, r)

/- Register asset modules. -/
def registerModules
    (f : AssetFederation) :
    List AssetModule →
      List (Except AssetError Unit) × AssetFederation
  | [] => ([], f)
  | m :: rest =>
      let answer := f.register m
      let (answers, f) :=
        registerModules (answer.toOption.getD f) rest
      (answer.map (fun _ => ()) :: answers, f)

------------------------------------------------------------
-- Hubs
------------------------------------------------------------

/- The equipment of a hub. -/
def equipment
    (a : Assembly) : Equipment :=
  { registry := .standard
    backend := a.backend
    pipelines := a.pipelines.map Pipeline.new
    destinations := a.destinations
    router := a.router
    assets := a.assets
    files := a.files }

/- The component of the batch engine, which can pause. -/
def batchTree : Tree Part :=
  .leaf { Component.new Part.batch
    BatchEngine.componentName .batchOperationManager with
    canPause := true }

/- The components below the supervisor. -/
def children
    (a : Assembly) : List (Tree Part) :=
  let e := a.equipment
  let devices :=
    e.pipelineTrees ++ [e.routerTree, batchTree]
  (if a.wings.devices then devices else []) ++
    (if a.wings.assets then [e.assetsTree] else [])

/- The supervisor with all components below it. -/
def supervisorTree
    (a : Assembly) : Tree Part :=
  .node (.new .supervisor a.name .supervisor) a.children

/- A hub that has not been started. -/
def hub
    (a : Assembly) : Hub :=
  { forest := a.supervisorTree :: a.equipment.looseTrees
    equipment := a.equipment
    engine := .new a.throttle
    via := a.via
    calls := []
    nextTicket := 0 }

end Assembly

end DeviceHub
