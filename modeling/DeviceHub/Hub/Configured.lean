import DeviceHub.Config.Hub
import DeviceHub.Hub.Assembly

/-
  Hubs made from a configuration.

  Key definitions include:
    * `HubConfig.store`
    * `HubConfig.federation`
    * `HubConfig.hasChannel`
    * `HubConfig.assembly`
-/

namespace DeviceHub

namespace HubConfig

------------------------------------------------------------
-- Storage
------------------------------------------------------------

/-
  The date of the device at a place: devices come one after
  the other, all of them at the time of the set-up.
-/
def createdAt
    (now : Instant)
    (place : Nat) : Instant :=
  { now with nano := now.nano + place }

/- Add a device, with an assignment if it has one. -/
def addDevice
    (now : Instant)
    (store : DeviceStore)
    (entry : DeviceSection × Nat) : DeviceStore :=
  let (s, place) := entry
  let store := store.addDevice
    (.new s.hardwareId s.specificationToken
      (createdAt now place))
  match s.assignmentToken with
  | none => store
  | some token =>
      store.addAssignment (.new token s.hardwareId)

/- The definition of a command. -/
def definition
    (s : CommandSection) : CommandDefinition :=
  { CommandDefinition.new s.token s.name with
    nameSpace := s.nameSpace }

/- What the storage holds from the start. -/
def store
    (c : HubConfig)
    (now : Instant) : DeviceStore :=
  let devices :=
    c.devices.zipIdx.foldl (addDevice now) .empty
  (c.commands.map definition).foldl DeviceStore.addCommand
    devices

------------------------------------------------------------
-- Assets
------------------------------------------------------------

/- The module of a section. -/
def assetModule
    (c : HubConfig)
    (s : AssetSection) : AssetModule :=
  .new s.id s.name s.type (.ofFile (c.assetPath s)) s.cache

/- Register a module, or name it as the one at fault. -/
def addModule
    (f : AssetFederation)
    (m : AssetModule) : Except String AssetFederation :=
  (f.register m).mapError fun _ =>
    s!"Invalid asset module '{m.id}'"

/- The asset modules of all sections. -/
def federation
    (c : HubConfig) : Except String AssetFederation :=
  (c.assets.map c.assetModule).foldlM addModule .empty

------------------------------------------------------------
-- Hubs
------------------------------------------------------------

/- Whether the channel that is asked for can be made. -/
def hasChannel
    (c : HubConfig) : Bool :=
  c.destination.channelCapacity ≤ Transport.maxCapacity

/- The only destination; its messages are taken at once. -/
def onlyDestination
    (c : HubConfig) : Destination :=
  let d := c.destination
  .new d.id .json (some ⟨d.commandTopic, d.systemTopic⟩)
    .drained

/- The router with the only destination. -/
def routing
    (c : HubConfig) : Router :=
  { Router.new c.router.mappings
      c.router.defaultDestination with
    destinations := .ofList [(c.destination.id, 0)] }

/- The pipeline of a section. -/
def pipeline
    (s : PipelineSection) : PipelineConfig :=
  ⟨s.sourceId, s.payloadKind, s.updateState⟩

/- What the hub of a configuration is made of. -/
def assembly
    (c : HubConfig)
    (files : FileView)
    (now : Instant)
    (eventId : Nat → String) : Except String Assembly :=
  (c.federation).map fun assets =>
    { name := "fleetwire"
      wings := ⟨true, true⟩
      backend := .of (c.store now) now eventId
      pipelines := c.pipelines.map pipeline
      destinations := [c.onlyDestination]
      router := c.routing
      assets := assets
      files := files
      throttle := c.batch.throttleMs }

end HubConfig

end DeviceHub
