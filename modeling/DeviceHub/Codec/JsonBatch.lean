import DeviceHub.Codec.Context
import DeviceHub.Codec.Error
import DeviceHub.Model.Event

/-
  Batches of events in JSON.

  A batch names one device and holds lists of locations,
  measurements and alerts; an entry's date, metadata and
  wish to update the state stand beside its own fields.

  Key definitions include:
    * `JsonBatch`
    * `JsonBatch.reader`
    * `JsonBatch.decode`
-/

namespace DeviceHub

namespace JsonBatch

------------------------------------------------------------
-- Entries
------------------------------------------------------------

/- What every entry of a batch may say. -/
structure Entry where
  kind : EventKind
  eventDate : Option Instant
  metadata : Dict String
  updateState : Bool
  deriving Inhabited

open Json in
/- Read the fields that all entries share. -/
def Entry.complete?
    (p : Place)
    (rest : List (String × Document))
    (kind : EventKind) : Option Entry := do
  let m ← Members.ofHeld?
    ["eventDate", "metadata", "updateState"] p.inside rest
  let eventDate ← m.optionalDefault "eventDate" .instant
  let metadata ← m.withDefault "metadata" .empty .textDict
  let updateState ← m.withDefault "updateState" false .bool
  some ⟨kind, eventDate, metadata, updateState⟩

open Json in
/- Read an entry with measurements. -/
def measurementsEntry : Reader Entry :=
  fun p d => do
    let (m, rest) ← Members.flattened? ["measurements"] p d
    let values ← m.required "measurements" (.dict .real)
    Entry.complete? p rest (.measurements values)

open Json in
/- Read an entry with a location. -/
def locationEntry : Reader Entry :=
  fun p d => do
    let (m, rest) ← Members.flattened?
      ["latitude", "longitude", "elevation"] p d
    let latitude ← m.required "latitude" .real
    let longitude ← m.required "longitude" .real
    let elevation ← m.optionalDefault "elevation" .real
    Entry.complete? p rest
      (.location latitude longitude elevation)

open Json in
/- Read an entry with an alert; its type has two names. -/
def alertEntry : Reader Entry :=
  fun p d => do
    let (m, rest) ← Members.flattened?
      ["level", "type", "alertType", "message"] p d
    let level ← m.required "level" AlertLevel.reader
    let type ← m.withDefault "type" none
      (fun p d => (Reader.text p d).map some)
    let alertType ← m.withDefault "alertType" none
      (fun p d => (Reader.text p d).map some)
    let message ← m.required "message" .text
    match type, alertType with
    | some t, none =>
        Entry.complete? p rest (.alert level t message)
    | none, some t =>
        Entry.complete? p rest (.alert level t message)
    | _, _ => none

end JsonBatch

------------------------------------------------------------
-- Batches
------------------------------------------------------------

/- The events that one device reports together. -/
structure JsonBatch where
  hardwareId : String
  originator : Option String
  measurements : List JsonBatch.Entry
  locations : List JsonBatch.Entry
  alerts : List JsonBatch.Entry
  deriving Inhabited

namespace JsonBatch

open Json in
/- Read a batch. -/
def reader : Reader JsonBatch :=
  fun p d => do
    let m ← Members.of?
      ["hardwareId", "originator", "measurements",
        "locations", "alerts"] p d
    let hardwareId ← m.withDefault "hardwareId" "" .text
    let originator ← m.optionalDefault "originator" .text
    let measurements ← m.withDefault "measurements" []
      (.list measurementsEntry)
    let locations ← m.withDefault "locations" []
      (.list locationEntry)
    let alerts ← m.withDefault "alerts" [] (.list alertEntry)
    some ⟨hardwareId, originator, measurements, locations,
      alerts⟩

/- The entries in the order of their events. -/
def entries
    (b : JsonBatch) : List Entry :=
  b.locations ++ b.measurements ++ b.alerts

/- The event of an entry; `fallback` dates undated ones. -/
def event
    (b : JsonBatch)
    (fallback : Option Instant)
    (e : Entry) : DecodedEvent :=
  { hardwareId := b.hardwareId
    originator := b.originator
    kind := e.kind
    eventDate := e.eventDate.or fallback
    metadata := e.metadata
    updateState := e.updateState }

/- Decode a payload. -/
def decode
    (payload : List UInt8)
    (context : Context) :
    Except CodecError (List DecodedEvent) :=
  match reader.ofBytes payload with
  | none => .error (.malformedPayload "Invalid JSON batch")
  | some b =>
      if Text.isBlank b.hardwareId then
        .error
          (.malformedPayload "Event batch has no hardwareId")
      else
        .ok (b.entries.map (b.event context.enqueueTime?))

end JsonBatch

end DeviceHub
