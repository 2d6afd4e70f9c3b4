import DeviceHub.CommandLine.Arguments
import DeviceHub.Hub.Configured

/-
  What the program does with its arguments.

  A run sees files, variables and the time, and leaves an
  output and the way it ended.

  Key definitions include:
    * `Surroundings`
    * `Ending`
    * `Outcome`
    * `Arguments.neededFiles`
    * `Arguments.run`
-/

namespace DeviceHub

namespace CommandLine

------------------------------------------------------------
-- Surroundings and Outcomes
------------------------------------------------------------

/- What a run can see. -/
structure Surroundings where
  files : FileView
  environment : Dict String
  now : Instant

/- The variable that names the configuration file. -/
def configVariable : String :=
  "FLEETWIRE_CONFIG"

/- The variable that sets the rest between elements. -/
def throttleVariable : String :=
  "FLEETWIRE_BATCH_THROTTLE_MS"

/- The configuration file unless another is named. -/
def defaultConfig : String :=
  "fleetwire.toml"

/- What a run writes. -/
inductive Output where
  | text (s : String)
  | document (j : Json)

/- The text that is written. -/
def Output.toText : Output → String
  | text s => s
  | document j => j.pretty ++ "\n"

/-
  How a run ends: well, with an error, or broken off over
  something that cannot be made.
-/
inductive Ending where
  | done
  | failed (message : String)
  | brokenOff
  deriving DecidableEq, Repr

/- The exit code that tells how a run ended. -/
def Ending.exitCode : Ending → Nat
  | done => 0
  | failed _ => 1
  | brokenOff => 101

/- What a run leaves behind. -/
structure Outcome where
  output : Output
  ending : Ending

namespace Outcome

/- A run that ends with an error before it writes. -/
def failed
    (message : String) : Outcome :=
  ⟨.text "", .failed message⟩

/- A run that is broken off before it writes. -/
def brokenOff : Outcome :=
  ⟨.text "", .brokenOff⟩

/- A run that writes a document. -/
def document
    (j : Json) : Outcome :=
  ⟨.document j, .done⟩

/- The error that a run ends with. -/
def error?
    (o : Outcome) : Option String :=
  match o.ending with
  | .failed message => some message
  | _ => none

end Outcome

------------------------------------------------------------
-- Checking
------------------------------------------------------------

/- Ask a part for something; every hub has the part. -/
def order
    (h : Hub)
    (part : Part)
    (action : LifecycleAction) :
    Except String Unit × Hub :=
  match h.call part action with
  | some (.ok _, h) => (.ok (), h)
  | some (.error e, h) => (.error e.message, h)
  | none => (.ok (), h)

/- The number of commands that all destinations delivered. -/
def deliveredCount
    (h : Hub) : Nat :=
  (h.equipment.destinations.map
    (·.metrics.delivered)).foldl (· + ·) 0

/- The lines that describe a hub. -/
def overview
    (h : Hub) : String :=
  let e := h.equipment
  let tree := ((h.tree? .supervisor).map Tree.render).getD ""
  let decoders :=
    String.intercalate ", " e.registry.decoders.keys
  let modules := e.assets.moduleIds.length
  let events := e.backend.store.eventCount
  let operations := h.engine.operationIds.length
  tree ++
    s!"decoders: {decoders}\n" ++
    s!"pipelines: {e.pipelines.length}, " ++
    s!"asset modules: {modules}\n" ++
    s!"stored events: {events}, " ++
    s!"batch operations: {operations}, " ++
    s!"commands delivered: {deliveredCount h}\n"

/- Stop a hub if it is running. -/
def shutDown
    (h : Hub) : Except String Unit :=
  if h.status .supervisor = .started then
    (order h .supervisor .stop).1
  else
    .ok ()

/- What is said of a hub that does not start. -/
def startFailure : String :=
  "FleetWire failed to start"

/- Start a hub, describe it, and stop it. -/
def check
    (hub : Hub) : Outcome :=
  let (started, h) := order hub .supervisor .start
  let lines := overview h
  match shutDown h, started with
  | .error e, _ => ⟨.text lines, .failed e⟩
  | .ok _, .error _ => ⟨.text lines, .failed startFailure⟩
  | .ok _, .ok _ => ⟨.text (lines ++ "ok\n"), .done⟩

------------------------------------------------------------
-- Decoding
------------------------------------------------------------

/- Decode a file and write its events. -/
def decode
    (s : Surroundings)
    (kind file : String) : Outcome :=
  match (s.files file).bytes? with
  | none => .failed s!"Failed to read {file}"
  | some bytes =>
      match CodecRegistry.standard.decode kind bytes
          (Context.received s.now "cli") with
      | .error e => .failed e.message
      | .ok events =>
          .document (.list (events.map DecodedEvent.toJson))

------------------------------------------------------------
-- Assets
------------------------------------------------------------

/- Carry out an asset command on modules that run. -/
def AssetCommand.run
    (h : Hub) : AssetCommand → Except String Json
  | search moduleId criteria =>
      match h.equipment.assets.search moduleId criteria with
      | .ok found => .ok (.list (found.map Asset.toJson))
      | .error e => .error e.message
  | refresh =>
      let (responses, _) :=
        h.equipment.assets.refreshAll h.equipment.files
      .ok (.list (responses.map RefreshResponse.toJson))

/- Start the modules, carry out a command, and stop them. -/
def runAssets
    (hub : Hub)
    (c : AssetCommand) : Except String Json := do
  let (started, h) := order hub .assets .start
  started
  let result := c.run h
  (order h .assets .stop).1
  result

------------------------------------------------------------
-- Running
------------------------------------------------------------

/- The outcome that writes a document or ends in an error. -/
def Outcome.ofResult : Except String Json → Outcome
  | .ok j => document j
  | .error e => failed e

/- The hub that a configuration describes. -/
def hub
    (s : Surroundings)
    (c : HubConfig) : Except String Hub :=
  (c.assembly s.files s.now toString).map Assembly.hub

/- Check a configuration; its channel comes first. -/
def checkConfig
    (s : Surroundings)
    (c : HubConfig) : Outcome :=
  if c.hasChannel then
    match hub s c with
    | .ok h => check h
    | .error e => .failed e
  else
    .brokenOff

namespace Arguments

/- The path of the configuration file. -/
def configFile
    (a : Arguments)
    (s : Surroundings) : String :=
  a.config.getD
    ((s.environment.get? configVariable).getD defaultConfig)

/- The configuration. -/
def hubConfig
    (a : Arguments)
    (s : Surroundings) : Except String HubConfig :=
  HubConfig.load s.files (a.configFile s)
    (s.environment.get? throttleVariable)

/-
  The files that a run looks at, as far as they can be told
  from the files seen so far.
-/
def neededFiles
    (a : Arguments)
    (s : Surroundings) : List String :=
  match a.command with
  | .decode _ file => [file]
  | _ =>
      match a.hubConfig s with
      | .ok c => a.configFile s :: c.assetPaths
      | .error _ => [a.configFile s]

/- Do what is asked for. -/
def run
    (a : Arguments)
    (s : Surroundings) : Outcome :=
  match a.command with
  | .decode kind file => decode s kind file
  | .check =>
      match a.hubConfig s with
      | .error e => .failed e
      | .ok c => checkConfig s c
  | .assets command =>
      .ofResult do
        let c ← a.hubConfig s
        runAssets (← hub s c) command

end Arguments

/- Read the arguments and do what they ask for. -/
def run
    (s : Surroundings)
    (args : List String) : Except Usage Outcome :=
  (Arguments.parse args).map fun a => a.run s

end CommandLine

end DeviceHub
