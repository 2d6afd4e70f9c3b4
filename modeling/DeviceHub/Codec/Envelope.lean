import DeviceHub.Codec.Context
import DeviceHub.Codec.Error
import DeviceHub.Codec.Wire
import DeviceHub.Model.Device

/-
  Envelopes: one event in binary form.

  Key definitions include:
    * `Envelope.Message`
    * `Envelope`
    * `Envelope.toBytes`
    * `Envelope.ofBytes?`
    * `Envelope.decode`
-/

namespace DeviceHub

namespace Envelope

------------------------------------------------------------
-- Messages
------------------------------------------------------------

/- What an envelope holds. -/
inductive Message where
  | measurements
      (values : Dict Binary64)
  | location
      (position : Location)
  | alert
      (summary : AlertSummary)
  | acknowledge
      (originatingEventId response : String)
  deriving Inhabited

namespace Message

/- The bytes of a level: its place in order. -/
def putLevel
    (l : AlertLevel) : List UInt8 :=
  Wire.putNat 4 (AlertLevel.all.idxOf l)

/- Take a level. -/
def level : Wire.Reader AlertLevel :=
  fun bytes => do
    let (i, rest) ← Wire.nat 4 bytes
    let l ← AlertLevel.all[i]?
    some (l, rest)

/- The bytes of a message: its kind, then its fields. -/
def toBytes : Message → List UInt8
  | measurements values =>
      Wire.putNat 4 0 ++ Wire.putDict Wire.putReal values
  | location position =>
      Wire.putNat 4 1 ++ Wire.putReal position.latitude ++
        Wire.putReal position.longitude ++
        Wire.putOption Wire.putReal position.elevation
  | alert summary =>
      Wire.putNat 4 2 ++ putLevel summary.level ++
        Wire.putText summary.alertType ++
        Wire.putText summary.message
  | acknowledge originating response =>
      Wire.putNat 4 3 ++ Wire.putText originating ++
        Wire.putText response

/- Take a message. -/
def ofBytes? : Wire.Reader Message :=
  fun bytes => do
    let (kind, rest) ← Wire.nat 4 bytes
    match kind with
    | 0 =>
        let (values, rest) ← Wire.dict Wire.real rest
        some (measurements values, rest)
    | 1 =>
        let (latitude, rest) ← Wire.real rest
        let (longitude, rest) ← Wire.real rest
        let (elevation, rest) ← Wire.option Wire.real rest
        some (location ⟨latitude, longitude, elevation⟩, rest)
    | 2 =>
        let (l, rest) ← level rest
        let (alertType, rest) ← Wire.text rest
        let (message, rest) ← Wire.text rest
        some (alert ⟨l, alertType, message⟩, rest)
    | 3 =>
        let (originating, rest) ← Wire.text rest
        let (response, rest) ← Wire.text rest
        some (acknowledge originating response, rest)
    | _ => none

/- The kind of event that a message becomes. -/
def kind : Message → EventKind
  | measurements values => .measurements values
  | location position =>
      .location position.latitude position.longitude
        position.elevation
  | alert summary =>
      .alert summary.level summary.alertType summary.message
  | acknowledge originating response =>
      .commandResponse originating none response

/- The JSON form. -/
def toJson : Message → Json
  | measurements values =>
      .record [("Measurements", .ofDict .real values)]
  | location position =>
      .record [("Location", position.toJson)]
  | alert summary =>
      .record
        [("Alert", .record
          [("level", summary.level.toJson),
            ("alert_type", .text summary.alertType),
            ("message", .text summary.message)])]
  | acknowledge originating response =>
      .record
        [("Acknowledge", .record
          [("originating_event_id", .text originating),
            ("response", .text response)])]

open Json in
/- Read an alert in JSON form. -/
def alertReader : Reader AlertSummary :=
  fun p d => do
    let m ← Members.of? ["level", "alert_type", "message"]
      p d
    let level ← m.required "level" AlertLevel.reader
    let alertType ← m.required "alert_type" .text
    let message ← m.required "message" .text
    some ⟨level, alertType, message⟩

open Json in
/- Read an acknowledgement in JSON form. -/
def acknowledgeReader : Reader Message :=
  fun p d => do
    let m ← Members.of? ["originating_event_id", "response"]
      p d
    let originating ← m.required "originating_event_id" .text
    let response ← m.required "response" .text
    some (acknowledge originating response)

open Json in
/- Read the JSON form. -/
def reader : Reader Message :=
  .choice (fun _ => none) fun name p d =>
    match name with
    | "Measurements" =>
        (Reader.dict .real p d).map measurements
    | "Location" => (Location.reader p d).map location
    | "Alert" => (alertReader p d).map alert
    | "Acknowledge" => acknowledgeReader p d
    | _ => none

end Message

end Envelope

------------------------------------------------------------
-- Envelopes
------------------------------------------------------------

/- One event of a device, with its time in milliseconds. -/
structure Envelope where
  hardwareId : String
  originator : Option String
  eventDateMillis : Option Int
  updateState : Bool
  message : Envelope.Message
  deriving Inhabited

namespace Envelope

/- An envelope that says nothing beyond its message. -/
def new
    (hardwareId : String)
    (message : Message) : Envelope :=
  ⟨hardwareId, none, none, false, message⟩

/- The bytes of an envelope. -/
def toBytes
    (e : Envelope) : List UInt8 :=
  Wire.putText e.hardwareId ++
    Wire.putOption Wire.putText e.originator ++
    Wire.putOption Wire.putInt64 e.eventDateMillis ++
    Wire.putBool e.updateState ++ e.message.toBytes

/- Take an envelope. -/
def ofBytes? : Wire.Reader Envelope :=
  fun bytes => do
    let (hardwareId, rest) ← Wire.text bytes
    let (originator, rest) ← Wire.option Wire.text rest
    let (millis, rest) ← Wire.option Wire.int64 rest
    let (updateState, rest) ← Wire.bool rest
    let (message, rest) ← Message.ofBytes? rest
    some (⟨hardwareId, originator, millis, updateState,
      message⟩, rest)

/- The event of an envelope; `fallback` dates undated ones. -/
def event
    (e : Envelope)
    (fallback : Option Instant) : DecodedEvent :=
  { hardwareId := e.hardwareId
    originator := e.originator
    kind := e.message.kind
    eventDate :=
      (e.eventDateMillis.bind Instant.ofMillis?).or fallback
    metadata := .empty
    updateState := e.updateState }

/- Decode a payload; bytes after the envelope are allowed. -/
def decode
    (payload : List UInt8)
    (context : Context) :
    Except CodecError (List DecodedEvent) :=
  match ofBytes? payload with
  | none =>
      .error (.malformedPayload "Invalid binary envelope")
  | some (e, _) =>
      if Text.isBlank e.hardwareId then
        .error
          (.malformedPayload
            "Binary envelope has no hardware id")
      else
        .ok [e.event context.enqueueTime?]

/- The JSON form. -/
def toJson
    (e : Envelope) : Json :=
  .record
    [("hardware_id", .text e.hardwareId),
      ("originator", .text? e.originator),
      ("event_date_millis",
        .ofOption .int e.eventDateMillis),
      ("update_state", .bool e.updateState),
      ("message", e.message.toJson)]

open Json in
/- Read the JSON form. -/
def reader : Reader Envelope :=
  fun p d => do
    let m ← Members.of?
      ["hardware_id", "originator", "event_date_millis",
        "update_state", "message"] p d
    let hardwareId ← m.required "hardware_id" .text
    let originator ← m.optional "originator" .text
    let millis ← m.optional "event_date_millis"
      (.int (Word.least 64) (Word.greatest 64))
    let updateState ← m.required "update_state" .bool
    let message ← m.required "message" Message.reader
    some ⟨hardwareId, originator, millis, updateState,
      message⟩

end Envelope

end DeviceHub
