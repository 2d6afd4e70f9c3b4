import DeviceHub.Codec.Registry
import DeviceHub.Lifecycle.Tree
import DeviceHub.Store.Backend

/-
  Pipelines: payloads from one source, decoded and routed to
  the storage.

  An event that cannot be routed is reported and does not
  hold up the events after it.

  Key definitions include:
    * `PipelineConfig`
    * `PipelineError`
    * `PayloadReport`
    * `PipelineMetrics`
    * `Pipeline`
    * `Pipeline.routeAll`
    * `Pipeline.receive`
-/

namespace DeviceHub

------------------------------------------------------------
-- Configuration
------------------------------------------------------------

/- The source of a pipeline and what its payloads are. -/
structure PipelineConfig where
  sourceId : String
  payloadKind : String
  updateState : Bool
  deriving DecidableEq, Inhabited, Repr

namespace PipelineConfig

/- The JSON form. -/
def toJson
    (c : PipelineConfig) : Json :=
  .record
    [("sourceId", .text c.sourceId),
      ("payloadKind", .text c.payloadKind),
      ("updateAssignmentState", .bool c.updateState)]

open Json in
/- Read the JSON form. -/
def reader : Reader PipelineConfig :=
  fun p d => do
    let m ← Members.of?
      ["sourceId", "payloadKind", "updateAssignmentState"]
      p d
    let sourceId ← m.required "sourceId" .text
    let payloadKind ← m.required "payloadKind" .text
    let updateState ← m.withDefault "updateAssignmentState"
      false .bool
    some ⟨sourceId, payloadKind, updateState⟩

end PipelineConfig

------------------------------------------------------------
-- Errors
------------------------------------------------------------

/- Errors of a pipeline. -/
inductive PipelineError where
  | notRunning (sourceId : String)
  | decode (e : CodecError)
  deriving DecidableEq, Inhabited, Repr

namespace PipelineError

/- The error as callers see it. -/
def problem : PipelineError → Problem
  | notRunning sourceId =>
      .of "NotRunning"
        s!"Pipeline '{sourceId}' is not running"
        .componentNotRunning
  | decode e =>
      .of "Decode" s!"Decode failed: {e.message}" e.code

end PipelineError

------------------------------------------------------------
-- Reports
------------------------------------------------------------

/- An event of a payload that could not be routed. -/
structure RoutingFailure where
  index : Nat
  hardwareId : String
  code : ErrorCode
  message : String
  deriving DecidableEq, Inhabited, Repr

namespace RoutingFailure

/- The JSON form. -/
def toJson
    (f : RoutingFailure) : Json :=
  .record
    [("index", .nat f.index),
      ("hardwareId", .text f.hardwareId),
      ("code", f.code.toJson),
      ("message", .text f.message)]

open Json in
/- Read the JSON form. -/
def reader : Reader RoutingFailure :=
  fun p d => do
    let m ← Members.of?
      ["index", "hardwareId", "code", "message"] p d
    let index ← m.required "index" (.nat 64)
    let hardwareId ← m.required "hardwareId" .text
    let code ← m.required "code" ErrorCode.reader
    let message ← m.required "message" .text
    some ⟨index, hardwareId, code, message⟩

end RoutingFailure

/- What became of the events of a payload. -/
structure PayloadReport where
  decoded : Nat
  routed : Nat
  failures : List RoutingFailure
  deriving DecidableEq, Inhabited, Repr

namespace PayloadReport

/- Whether every event was routed. -/
def isComplete
    (r : PayloadReport) : Bool :=
  r.failures.isEmpty

/- The JSON form. -/
def toJson
    (r : PayloadReport) : Json :=
  .record
    [("decoded", .nat r.decoded), ("routed", .nat r.routed),
      ("failures",
        .list (r.failures.map RoutingFailure.toJson))]

open Json in
/- Read the JSON form. -/
def reader : Reader PayloadReport :=
  fun p d => do
    let m ← Members.of? ["decoded", "routed", "failures"] p d
    let decoded ← m.required "decoded" (.nat 64)
    let routed ← m.required "routed" (.nat 64)
    let failures ← m.required "failures"
      (.list RoutingFailure.reader)
    some ⟨decoded, routed, failures⟩

end PayloadReport

/- What a pipeline has done so far. -/
structure PipelineMetrics where
  payloadsReceived : Nat
  eventsDecoded : Nat
  eventsRouted : Nat
  decodeFailures : Nat
  routingFailures : Nat
  deriving DecidableEq, Inhabited, Repr

namespace PipelineMetrics

/- The JSON form. -/
def toJson
    (m : PipelineMetrics) : Json :=
  .record
    [("payloadsReceived", .nat m.payloadsReceived),
      ("eventsDecoded", .nat m.eventsDecoded),
      ("eventsRouted", .nat m.eventsRouted),
      ("decodeFailures", .nat m.decodeFailures),
      ("routingFailures", .nat m.routingFailures)]

open Json in
/- Read the JSON form. -/
def reader : Reader PipelineMetrics :=
  fun p d => do
    let m ← Members.of?
      ["payloadsReceived", "eventsDecoded", "eventsRouted",
        "decodeFailures", "routingFailures"] p d
    let received ← m.required "payloadsReceived" (.nat 64)
    let decoded ← m.required "eventsDecoded" (.nat 64)
    let routed ← m.required "eventsRouted" (.nat 64)
    let undecoded ← m.required "decodeFailures" (.nat 64)
    let unrouted ← m.required "routingFailures" (.nat 64)
    some ⟨received, decoded, routed, undecoded, unrouted⟩

end PipelineMetrics

------------------------------------------------------------
-- Pipelines
------------------------------------------------------------

/- A pipeline with the decoder it has while it runs. -/
structure Pipeline where
  config : PipelineConfig
  decoder : Option Decoder
  metrics : PipelineMetrics
  deriving Inhabited

namespace Pipeline

/- A pipeline that has not run yet. -/
def new
    (config : PipelineConfig) : Pipeline :=
  ⟨config, none, ⟨0, 0, 0, 0, 0⟩⟩

/- The name of the component. -/
def componentName
    (config : PipelineConfig) : String :=
  "inbound:" ++ config.sourceId

/- Find the decoder for the payloads to come. -/
def findDecoder
    (p : Pipeline)
    (registry : CodecRegistry) :
    Except LifecycleError Unit × Pipeline :=
  match registry.decoders.get? p.config.payloadKind with
  | some d => (.ok (), { p with decoder := some d })
  | none =>
      (.error (.configuration
        (CodecRegistry.noDecoder p.config.payloadKind ++
          s!" (source '{p.config.sourceId}')")), p)

/- Give up the decoder. -/
def dropDecoder
    (p : Pipeline) : Except LifecycleError Unit × Pipeline :=
  (.ok (), { p with decoder := none })

/-
  Store an event and let it change the state of its device's
  use, if it asks for that.  The event stays stored when the
  state cannot be changed.
-/
def route
    (b : Backend)
    (e : DecodedEvent) : Except StoreError Unit × Backend :=
  match b.createEvent e.hardwareId e with
  | .error err => (.error err, b)
  | .ok (stored, b) =>
      if e.updateState then
        match b.updateState e.hardwareId stored with
        | .error err => (.error err, b)
        | .ok b => (.ok (), b)
      else
        (.ok (), b)

/- An event with the pipeline's own wish added. -/
def marked
    (p : Pipeline)
    (e : DecodedEvent) : DecodedEvent :=
  { e with
    updateState := e.updateState || p.config.updateState }

/- What routing events has come to so far. -/
structure Routing where
  metrics : PipelineMetrics
  report : PayloadReport
  backend : Backend

/- Route the event at `index`; count it, or list its failure. -/
def routeNext
    (p : Pipeline)
    (index : Nat)
    (e : DecodedEvent)
    (r : Routing) : Routing :=
  match route r.backend (p.marked e) with
  | (.ok _, b) =>
      ⟨{ r.metrics with
          eventsRouted := r.metrics.eventsRouted + 1 },
        { r.report with routed := r.report.routed + 1 }, b⟩
  | (.error err, b) =>
      ⟨{ r.metrics with
          routingFailures := r.metrics.routingFailures + 1 },
        { r.report with
          failures := r.report.failures ++
            [⟨index, e.hardwareId, err.code, err.message⟩] },
        b⟩

/- Route events in order, the first of them at `index`. -/
def routeAll
    (p : Pipeline)
    (index : Nat) :
    List DecodedEvent → Routing → Routing
  | [], r => r
  | e :: rest, r =>
      p.routeAll (index + 1) rest (p.routeNext index e r)

/- What a payload comes to. -/
structure Receipt where
  result : Except PipelineError PayloadReport
  pipeline : Pipeline
  backend : Backend

/- Decode a payload and route its events. -/
def receiveWith
    (p : Pipeline)
    (decode : List UInt8 → Context →
      Except CodecError (List DecodedEvent))
    (b : Backend)
    (payload : List UInt8)
    (context : Context) : Receipt :=
  let m := { p.metrics with
    payloadsReceived := p.metrics.payloadsReceived + 1 }
  let context := Context.withSource context p.config.sourceId
  match decode payload context with
  | .error e =>
      ⟨.error (.decode e),
        { p with metrics := { m with
          decodeFailures := m.decodeFailures + 1 } }, b⟩
  | .ok events =>
      let m := { m with
        eventsDecoded := m.eventsDecoded + events.length }
      let r := p.routeAll 0 events
        ⟨m, ⟨events.length, 0, []⟩, b⟩
      ⟨.ok r.report, { p with metrics := r.metrics },
        r.backend⟩

/-
  Take a payload, if the pipeline is running, with decoders
  that decode as they are said to.
-/
def receiveBy
    (decoding : Decoding)
    (p : Pipeline)
    (status : Status)
    (b : Backend)
    (payload : List UInt8)
    (context : Context) : Receipt :=
  let refused : Receipt :=
    ⟨.error (.notRunning p.config.sourceId), p, b⟩
  if status = .started then
    match p.decoder with
    | some d => p.receiveWith (decoding d) b payload context
    | none => refused
  else
    refused

/- Take a payload, if the pipeline is running. -/
def receive
    (p : Pipeline)
    (status : Status)
    (b : Backend)
    (payload : List UInt8)
    (context : Context) : Receipt :=
  p.receiveBy Decoder.decode status b payload context

end Pipeline

end DeviceHub
