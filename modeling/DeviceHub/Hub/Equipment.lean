import DeviceHub.Assets.Federation
import DeviceHub.Delivery.Router
import DeviceHub.Inbound.Pipeline

/-
  The equipment of a hub, and what its components do when
  they start and stop.

  Key definitions include:
    * `Part`
    * `Equipment`
    * `Equipment.hooks`
-/

namespace DeviceHub

------------------------------------------------------------
-- Parts
------------------------------------------------------------

/-
  The part of a hub that a component stands for.  Pipelines
  and destinations are counted from zero.
-/
inductive Part where
  | supervisor
  | pipeline (place : Nat)
  | router
  | destination (place : Nat)
  | batch
  | assets
  | assetModule (id : String)
  deriving DecidableEq, Inhabited, Repr

/- All that the components of a hub work with. -/
structure Equipment where
  registry : CodecRegistry
  backend : Backend
  pipelines : List Pipeline
  destinations : List Destination
  router : Router
  assets : AssetFederation
  files : FileView

namespace Equipment

------------------------------------------------------------
-- Changes
------------------------------------------------------------

/- Put a pipeline in its place. -/
def setPipeline
    (e : Equipment)
    (place : Nat)
    (p : Pipeline) : Equipment :=
  { e with pipelines := e.pipelines.set place p }

/- Put a destination in its place. -/
def setDestination
    (e : Equipment)
    (place : Nat)
    (d : Destination) : Equipment :=
  { e with destinations := e.destinations.set place d }

/- Put an asset module in place of the one with its id. -/
def setModule
    (e : Equipment)
    (m : AssetModule) : Equipment :=
  { e with assets := e.assets.replace m }

------------------------------------------------------------
-- Hooks
------------------------------------------------------------

/- What a pipeline does. -/
def pipelineHook
    (place : Nat)
    (hook : Hook)
    (e : Equipment) : Except LifecycleError Unit × Equipment :=
  match e.pipelines[place]?, hook with
  | some p, .start =>
      let (result, p) := p.findDecoder e.registry
      (result, e.setPipeline place p)
  | some p, .stop =>
      let (result, p) := p.dropDecoder
      (result, e.setPipeline place p)
  | _, _ => (.ok (), e)

/- What a destination does. -/
def destinationHook
    (place : Nat)
    (hook : Hook)
    (e : Equipment) : Except LifecycleError Unit × Equipment :=
  match e.destinations[place]?, hook with
  | some d, .start => (d.componentError d.transport.start, e)
  | some d, .stop => (d.componentError d.transport.stop, e)
  | _, _ => (.ok (), e)

/- What an asset module does. -/
def moduleHook
    (id : String)
    (hook : Hook)
    (e : Equipment) : Except LifecycleError Unit × Equipment :=
  match e.assets.module? id, hook with
  | .ok m, .start =>
      let (result, m) := m.loadSource e.files
      (result, e.setModule m)
  | .ok m, .stop =>
      let (result, m) := m.dropCache
      (result, e.setModule m)
  | _, _ => (.ok (), e)

/- What the components of a hub do at their turns. -/
def hooks : Hooks Part Equipment :=
  fun c hook e =>
    match c.label, hook with
    | .pipeline place, hook => pipelineHook place hook e
    | .destination place, hook => destinationHook place hook e
    | .assetModule id, hook => moduleHook id hook e
    | .router, .start => (e.router.check, e)
    | _, _ => (.ok (), e)

------------------------------------------------------------
-- Components
------------------------------------------------------------

/- The component of a pipeline. -/
def pipelineTree
    (place : Nat)
    (p : Pipeline) : Tree Part :=
  .leaf (.new (.pipeline place)
    (Pipeline.componentName p.config) .inboundPipeline)

/- The component of a destination. -/
def destinationTree
    (place : Nat)
    (d : Destination) : Tree Part :=
  .leaf (.new (.destination place)
    (Destination.componentName d.id) .commandDestination)

/- The component of an asset module. -/
def moduleTree
    (m : AssetModule) : Tree Part :=
  .leaf (.new (.assetModule m.id)
    (AssetModule.componentName m.id) .assetModule)

/- The component of the asset modules together. -/
def assetsTree
    (e : Equipment) : Tree Part :=
  .node (.new .assets AssetFederation.componentName
    .assetModuleManager) (e.assets.modules.map moduleTree)

/- The components of all pipelines. -/
def pipelineTrees
    (e : Equipment) : List (Tree Part) :=
  e.pipelines.mapIdx pipelineTree

/- Whether a destination is registered with the router. -/
def isRouted
    (e : Equipment)
    (place : Nat) : Bool :=
  e.router.destinations.entries.any (·.2 == place)

/- The components of destinations with their places. -/
def destinationTrees
    (e : Equipment) : List (Nat × Tree Part) :=
  e.destinations.mapIdx fun place d =>
    (place, destinationTree place d)

/- The component of the router with its destinations. -/
def routerTree
    (e : Equipment) : Tree Part :=
  .node (.new .router Router.componentName .commandRouter)
    ((e.destinationTrees.filter (e.isRouted ·.1)).map (·.2))

/- The components of destinations that are not routed. -/
def looseTrees
    (e : Equipment) : List (Tree Part) :=
  (e.destinationTrees.filter (!e.isRouted ·.1)).map (·.2)

end Equipment

end DeviceHub
