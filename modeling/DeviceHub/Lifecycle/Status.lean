import DeviceHub.Problem

/-
  The statuses of supervised components and the changes
  between them.

  Key definitions include:
    * `Status`
    * `ComponentKind`
    * `ChildPolicy`
    * `StatusChange`
-/

namespace DeviceHub

------------------------------------------------------------
-- Statuses
------------------------------------------------------------

/- Where a component stands. -/
inductive Status where
  | stopped
  | starting
  | started
  | pausing
  | paused
  | stopping
  | error
  | terminated
  deriving DecidableEq, Repr

namespace Status

instance : Inhabited Status :=
  ⟨stopped⟩

/- All statuses. -/
def all : List Status :=
  [stopped, starting, started, pausing, paused, stopping,
    error, terminated]

/- The name of a status. -/
def name : Status → String
  | stopped => "Stopped"
  | starting => "Starting"
  | started => "Started"
  | pausing => "Pausing"
  | paused => "Paused"
  | stopping => "Stopping"
  | error => "Error"
  | terminated => "Terminated"

/- Statuses from which a component can be stopped. -/
def canStop
    (s : Status) : Bool :=
  s = started || s = paused

/- Statuses during which work has to wait. -/
def isPausing
    (s : Status) : Bool :=
  s = paused || s = pausing

/- The JSON form. -/
def toJson
    (s : Status) : Json :=
  .text s.name

/- Read the JSON form. -/
def reader : Json.Reader Status :=
  .name (all.map fun s => (s.name, s))

end Status

------------------------------------------------------------
-- Kinds of Components
------------------------------------------------------------

/- What a component is for. -/
inductive ComponentKind where
  | supervisor
  | inboundPipeline
  | commandDestination
  | commandRouter
  | batchOperationManager
  | assetModuleManager
  | assetModule
  | deviceManagement
  | other (name : String)
  deriving DecidableEq, Inhabited, Repr

namespace ComponentKind

/- The kinds that have no name of their own. -/
def common : List ComponentKind :=
  [supervisor, inboundPipeline, commandDestination,
    commandRouter, batchOperationManager,
    assetModuleManager, assetModule, deviceManagement]

/- The name of a kind. -/
def name : ComponentKind → String
  | supervisor => "supervisor"
  | inboundPipeline => "inbound_pipeline"
  | commandDestination => "command_destination"
  | commandRouter => "command_router"
  | batchOperationManager => "batch_operation_manager"
  | assetModuleManager => "asset_module_manager"
  | assetModule => "asset_module"
  | deviceManagement => "device_management"
  | other name => name

/- The word for a kind in JSON and in descriptions. -/
def word : ComponentKind → String
  | supervisor => "Supervisor"
  | inboundPipeline => "InboundPipeline"
  | commandDestination => "CommandDestination"
  | commandRouter => "CommandRouter"
  | batchOperationManager => "BatchOperationManager"
  | assetModuleManager => "AssetModuleManager"
  | assetModule => "AssetModule"
  | deviceManagement => "DeviceManagement"
  | other _ => "Other"

/- The JSON form. -/
def toJson
    (k : ComponentKind) : Json :=
  match k with
  | other name => .record [(k.word, .text name)]
  | k => .text k.word

/- Read the JSON form. -/
def reader : Json.Reader ComponentKind :=
  .choice
    (fun w => (common.map fun k => (k.word, k)).lookup w)
    fun w p d =>
      if w == "Other" then
        (Json.Reader.text p d).map other
      else
        none

end ComponentKind

------------------------------------------------------------
-- Failing Children
------------------------------------------------------------

/- What a parent does when a child fails to start. -/
inductive ChildPolicy where
  | continue
  | failFast
  deriving DecidableEq, Repr

namespace ChildPolicy

instance : Inhabited ChildPolicy :=
  ⟨.continue⟩

/- The name of a policy. -/
def name : ChildPolicy → String
  | .continue => "Continue"
  | .failFast => "FailFast"

/- The JSON form. -/
def toJson
    (p : ChildPolicy) : Json :=
  .text p.name

/- Read the JSON form. -/
def reader : Json.Reader ChildPolicy :=
  .name ([.continue, .failFast].map fun p => (p.name, p))

end ChildPolicy

------------------------------------------------------------
-- Changes
------------------------------------------------------------

/- One change of status and the reason for it. -/
structure StatusChange where
  before : Status
  after : Status
  reason : String
  deriving DecidableEq, Inhabited, Repr

namespace StatusChange

/- The short JSON form: both statuses and the reason. -/
def toJson
    (c : StatusChange) : Json :=
  .texts [c.before.name, c.after.name, c.reason]

end StatusChange

/- A change of status with its date. -/
structure DatedChange extends StatusChange where
  timestamp : Instant
  deriving DecidableEq, Inhabited, Repr

namespace DatedChange

/- The JSON form. -/
def toJson
    (c : DatedChange) : Json :=
  .record
    [("from", c.before.toJson), ("to", c.after.toJson),
      ("timestamp", .instant c.timestamp),
      ("reason", .text c.reason)]

open Json in
/- Read the JSON form. -/
def reader : Reader DatedChange :=
  fun p d => do
    let m ← Members.of? ["from", "to", "timestamp", "reason"]
      p d
    let before ← m.required "from" Status.reader
    let after ← m.required "to" Status.reader
    let timestamp ← m.required "timestamp" .instant
    let reason ← m.required "reason" .text
    some ⟨⟨before, after, reason⟩, timestamp⟩

end DatedChange

end DeviceHub
