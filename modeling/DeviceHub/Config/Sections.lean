import DeviceHub.Assets.Asset
import DeviceHub.Delivery.Topics
import DeviceHub.Toml.Value

/-
  The sections of a configuration file.

  Key definitions include:
    * `PipelineSection`
    * `DestinationSection`
    * `RouterSection`
    * `BatchSection`
    * `AssetSection`
    * `DeviceSection`
    * `CommandSection`
-/

namespace DeviceHub

------------------------------------------------------------
-- Pipelines
------------------------------------------------------------

/- A pipeline to be set up. -/
structure PipelineSection where
  sourceId : String
  payloadKind : String
  updateState : Bool
  deriving DecidableEq, Inhabited, Repr

namespace PipelineSection

/- The JSON form. -/
def toJson
    (s : PipelineSection) : Json :=
  .record
    [("source_id", .text s.sourceId),
      ("payload_kind", .text s.payloadKind),
      ("update_assignment_state", .bool s.updateState)]

open Toml in
/- Read a section. -/
def reader : Toml.Reader PipelineSection :=
  fun v => do
    let m ← Members.of?
      ["source_id", "payload_kind",
        "update_assignment_state"] v
    let sourceId ← m.required "source_id" .text
    let payloadKind ← m.required "payload_kind" .text
    let updateState ← m.withDefault "update_assignment_state"
      false .bool
    some ⟨sourceId, payloadKind, updateState⟩

end PipelineSection

------------------------------------------------------------
-- Delivery
------------------------------------------------------------

/- The destination of commands. -/
structure DestinationSection where
  id : String
  commandTopic : String
  systemTopic : String
  channelCapacity : Nat
  deriving DecidableEq, Inhabited, Repr

namespace DestinationSection

/- The destination unless the file says otherwise. -/
def standard : DestinationSection :=
  ⟨"default", TopicTemplates.standard.command,
    TopicTemplates.standard.system, 256⟩

/- The JSON form. -/
def toJson
    (s : DestinationSection) : Json :=
  .record
    [("id", .text s.id),
      ("command_topic", .text s.commandTopic),
      ("system_topic", .text s.systemTopic),
      ("channel_capacity", .nat s.channelCapacity)]

open Toml in
/- Read a section. -/
def reader : Toml.Reader DestinationSection :=
  fun v => do
    let m ← Members.of?
      ["id", "command_topic", "system_topic",
        "channel_capacity"] v
    let id ← m.withDefault "id" standard.id .text
    let command ← m.withDefault "command_topic"
      standard.commandTopic .text
    let system ← m.withDefault "system_topic"
      standard.systemTopic .text
    let capacity ← m.withDefault "channel_capacity"
      standard.channelCapacity .nat
    some ⟨id, command, system, capacity⟩

end DestinationSection

/- Which destination takes the commands of which devices. -/
structure RouterSection where
  mappings : Dict String
  defaultDestination : Option String
  deriving Inhabited

namespace RouterSection

/- The JSON form. -/
def toJson
    (s : RouterSection) : Json :=
  .record
    [("mappings", .textDict s.mappings),
      ("default_destination", .text? s.defaultDestination)]

open Toml in
/- Read a section. -/
def reader : Toml.Reader RouterSection :=
  fun v => do
    let m ← Members.of? ["mappings", "default_destination"] v
    let mappings ← m.withDefault "mappings" .empty .textDict
    let destination ← m.optional "default_destination" .text
    some ⟨mappings, destination⟩

end RouterSection

/- How batch operations are run. -/
structure BatchSection where
  throttleMs : Nat
  deriving DecidableEq, Inhabited, Repr

namespace BatchSection

/- The JSON form. -/
def toJson
    (s : BatchSection) : Json :=
  .record [("throttle_ms", .nat s.throttleMs)]

open Toml in
/- Read a section. -/
def reader : Toml.Reader BatchSection :=
  fun v => do
    let m ← Members.of? ["throttle_ms"] v
    let throttle ← m.withDefault "throttle_ms" 0 .nat
    some ⟨throttle⟩

end BatchSection

------------------------------------------------------------
-- Assets
------------------------------------------------------------

/- An asset module to be set up. -/
structure AssetSection where
  id : String
  name : String
  type : AssetType
  path : String
  cache : Bool
  deriving DecidableEq, Inhabited, Repr

namespace AssetSection

/- The JSON form. -/
def toJson
    (s : AssetSection) : Json :=
  .record
    [("id", .text s.id), ("name", .text s.name),
      ("asset_type", s.type.toJson), ("path", .text s.path),
      ("cache", .bool s.cache)]

/- A type by its name. -/
def typeReader : Toml.Reader AssetType :=
  .name (AssetType.all.map fun t => (t.name, t))

open Toml in
/- Read a section. -/
def reader : Toml.Reader AssetSection :=
  fun v => do
    let m ← Members.of?
      ["id", "name", "asset_type", "path", "cache"] v
    let id ← m.required "id" .text
    let name ← m.required "name" .text
    let type ← m.required "asset_type" typeReader
    let path ← m.required "path" .text
    let cache ← m.withDefault "cache" false .bool
    some ⟨id, name, type, path, cache⟩

end AssetSection

------------------------------------------------------------
-- Devices and Commands
------------------------------------------------------------

/- A device that is known from the start. -/
structure DeviceSection where
  hardwareId : String
  specificationToken : String
  assignmentToken : Option String
  deriving DecidableEq, Inhabited, Repr

namespace DeviceSection

/- The JSON form. -/
def toJson
    (s : DeviceSection) : Json :=
  .record
    [("hardware_id", .text s.hardwareId),
      ("specification_token", .text s.specificationToken),
      ("assignment_token", .text? s.assignmentToken)]

open Toml in
/- Read a section. -/
def reader : Toml.Reader DeviceSection :=
  fun v => do
    let m ← Members.of?
      ["hardware_id", "specification_token",
        "assignment_token"] v
    let hardwareId ← m.required "hardware_id" .text
    let specification ← m.required "specification_token"
      .text
    let assignment ← m.optional "assignment_token" .text
    some ⟨hardwareId, specification, assignment⟩

end DeviceSection

/- A command that is known from the start. -/
structure CommandSection where
  token : String
  name : String
  nameSpace : Option String
  deriving DecidableEq, Inhabited, Repr

namespace CommandSection

/- The JSON form. -/
def toJson
    (s : CommandSection) : Json :=
  .record
    [("token", .text s.token), ("name", .text s.name),
      ("namespace", .text? s.nameSpace)]

open Toml in
/- Read a section. -/
def reader : Toml.Reader CommandSection :=
  fun v => do
    let m ← Members.of? ["token", "name", "namespace"] v
    let token ← m.required "token" .text
    let name ← m.required "name" .text
    let nameSpace ← m.optional "namespace" .text
    some ⟨token, name, nameSpace⟩

end CommandSection

end DeviceHub
