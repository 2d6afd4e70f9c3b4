import DeviceHub.Config.Sections
import DeviceHub.Files.View
import DeviceHub.Json.Token
import DeviceHub.Toml.Document

/-
  The configuration of a hub, as read from a file.

  Without a file everything has its default.  The directory
  of the file is where the paths of asset files begin.

  Key definitions include:
    * `HubConfig`
    * `HubConfig.load`
    * `HubConfig.assetPath`
-/

namespace DeviceHub

/- All sections, and the directory of the file. -/
structure HubConfig where
  pipelines : List PipelineSection
  destination : DestinationSection
  router : RouterSection
  batch : BatchSection
  assets : List AssetSection
  devices : List DeviceSection
  commands : List CommandSection
  baseDir : Option String

namespace HubConfig

/- The configuration without a file. -/
def standard : HubConfig :=
  { pipelines := []
    destination := .standard
    router := ⟨.empty, none⟩
    batch := ⟨0⟩
    assets := []
    devices := []
    commands := []
    baseDir := none }

instance : Inhabited HubConfig :=
  ⟨standard⟩

/- The JSON form, without the directory. -/
def toJson
    (c : HubConfig) : Json :=
  .record
    [("pipelines",
        .list (c.pipelines.map PipelineSection.toJson)),
      ("destination", c.destination.toJson),
      ("router", c.router.toJson),
      ("batch", c.batch.toJson),
      ("assets", .list (c.assets.map AssetSection.toJson)),
      ("devices", .list (c.devices.map DeviceSection.toJson)),
      ("commands",
        .list (c.commands.map CommandSection.toJson))]

/- The names of the sections. -/
def sectionNames : List String :=
  ["pipelines", "destination", "router", "batch", "assets",
    "devices", "commands"]

open Toml in
/- Read a document; every section may be left out. -/
def reader : Toml.Reader HubConfig :=
  fun v => do
    let m ← Members.of? sectionNames v
    let pipelines ← m.withDefault "pipelines" []
      (.list PipelineSection.reader)
    let destination ← m.withDefault "destination" .standard
      DestinationSection.reader
    let router ← m.withDefault "router" standard.router
      RouterSection.reader
    let batch ← m.withDefault "batch" standard.batch
      BatchSection.reader
    let assets ← m.withDefault "assets" []
      (.list AssetSection.reader)
    let devices ← m.withDefault "devices" []
      (.list DeviceSection.reader)
    let commands ← m.withDefault "commands" []
      (.list CommandSection.reader)
    some ⟨pipelines, destination, router, batch, assets,
      devices, commands, none⟩

/- Read the text of a file. -/
def ofText?
    (s : String) : Option HubConfig :=
  (Toml.parse? s).bind reader

/- Read the file at a path, if there is one. -/
def ofFile
    (files : FileView)
    (path : String) : Except String HubConfig :=
  match files path with
  | .missing => .ok standard
  | .directory => .error s!"Failed to read {path}"
  | .content bytes =>
      match Json.utf8? bytes with
      | none => .error s!"Failed to read {path}"
      | some s =>
          match ofText? s with
          | none =>
              .error s!"Invalid configuration in {path}"
          | some c =>
              .ok { c with baseDir := Path.parent? path }

/- Let a number from outside take the place of the rest. -/
def withThrottle
    (c : HubConfig)
    (throttle : Option String) : HubConfig :=
  match throttle.bind Literal.natural? with
  | some n => { c with batch := ⟨n⟩ }
  | none => c

/- The configuration with a rest given from outside. -/
def load
    (files : FileView)
    (path : String)
    (throttle : Option String) : Except String HubConfig :=
  (ofFile files path).map fun c => c.withThrottle throttle

/- The path of a module's file. -/
def assetPath
    (c : HubConfig)
    (s : AssetSection) : String :=
  Path.resolve c.baseDir s.path

/- The paths of all asset files. -/
def assetPaths
    (c : HubConfig) : List String :=
  c.assets.map c.assetPath

end HubConfig

end DeviceHub
