import DeviceHub.Json.Reader

/-
  Events that devices report, before and after storage.

  Key definitions include:
    * `AlertLevel`
    * `CommandInitiator`
    * `EventKind`
    * `DecodedEvent`
    * `StoredEvent`
-/

namespace DeviceHub

------------------------------------------------------------
-- Alert Levels
------------------------------------------------------------

/- How serious an alert is. -/
inductive AlertLevel where
  | info
  | warning
  | error
  | critical
  deriving DecidableEq, Inhabited, Repr

namespace AlertLevel

/- All levels, in order of weight. -/
def all : List AlertLevel :=
  [info, warning, error, critical]

/- The name of a level. -/
def name : AlertLevel → String
  | info => "Info"
  | warning => "Warning"
  | error => "Error"
  | critical => "Critical"

/- The JSON form. -/
def toJson
    (l : AlertLevel) : Json :=
  .text l.name

/- Read the JSON form. -/
def reader : Json.Reader AlertLevel :=
  .name (all.map fun l => (l.name, l))

end AlertLevel

------------------------------------------------------------
-- Initiators
------------------------------------------------------------

/- Who asked for a command. -/
inductive CommandInitiator where
  | rest
  | batchOperation
  | scheduler
  | script
  deriving DecidableEq, Repr

namespace CommandInitiator

instance : Inhabited CommandInitiator :=
  ⟨rest⟩

/- All initiators. -/
def all : List CommandInitiator :=
  [rest, batchOperation, scheduler, script]

/- The name of an initiator. -/
def name : CommandInitiator → String
  | rest => "Rest"
  | batchOperation => "BatchOperation"
  | scheduler => "Scheduler"
  | script => "Script"

/- The JSON form. -/
def toJson
    (i : CommandInitiator) : Json :=
  .text i.name

/- Read the JSON form. -/
def reader : Json.Reader CommandInitiator :=
  .name (all.map fun i => (i.name, i))

end CommandInitiator

------------------------------------------------------------
-- Kinds of Events
------------------------------------------------------------

/- What an event says. -/
inductive EventKind where
  | measurements
      (values : Dict Binary64)
  | location
      (latitude longitude : Binary64)
      (elevation : Option Binary64)
  | alert
      (level : AlertLevel)
      (alertType message : String)
  | commandInvocation
      (commandToken : String)
      (parameterValues : Dict String)
      (initiator : CommandInitiator)
      (initiatorId : Option String)
  | commandResponse
      (originatingEventId : String)
      (responseEventId : Option String)
      (response : String)
  deriving Inhabited

namespace EventKind

/- The name of a kind. -/
def name : EventKind → String
  | measurements .. => "measurements"
  | location .. => "location"
  | alert .. => "alert"
  | commandInvocation .. => "commandInvocation"
  | commandResponse .. => "commandResponse"

/- The names of all kinds. -/
def names : List String :=
  ["measurements", "location", "alert",
    "commandInvocation", "commandResponse"]

/- The fields of the JSON form after the tag. -/
def jsonFields : EventKind → List (String × Json)
  | measurements values =>
      [("measurements", .ofDict .real values)]
  | location latitude longitude elevation =>
      [("latitude", .real latitude),
        ("longitude", .real longitude),
        ("elevation", .ofOption .real elevation)]
  | alert level alertType message =>
      [("level", level.toJson),
        ("alertType", .text alertType),
        ("message", .text message)]
  | commandInvocation token values initiator initiatorId =>
      [("commandToken", .text token),
        ("parameterValues", .textDict values),
        ("initiator", initiator.toJson),
        ("initiatorId", .text? initiatorId)]
  | commandResponse originating responseId response =>
      [("originatingEventId", .text originating),
        ("responseEventId", .text? responseId),
        ("response", .text response)]

/- The JSON form. -/
def toJson
    (k : EventKind) : Json :=
  .record (("type", .text k.name) :: k.jsonFields)

open Json in
/- Read the members that go with a tag. -/
def ofTagged?
    (p : Place)
    (t : Members.Tagged) : Option EventKind :=
  match t.tag with
  | "measurements" => do
      let m ← t.members? ["measurements"] p
      let values ← m.required "measurements" (.dict .real)
      some (measurements values)
  | "location" => do
      let m ← t.members?
        ["latitude", "longitude", "elevation"] p
      let latitude ← m.required "latitude" .real
      let longitude ← m.required "longitude" .real
      let elevation ← m.optionalDefault "elevation" .real
      some (location latitude longitude elevation)
  | "alert" => do
      let m ← t.members? ["level", "alertType", "message"] p
      let level ← m.required "level" AlertLevel.reader
      let alertType ← m.required "alertType" .text
      let message ← m.required "message" .text
      some (alert level alertType message)
  | "commandInvocation" => do
      let m ← t.members?
        ["commandToken", "parameterValues", "initiator",
          "initiatorId"] p
      let token ← m.required "commandToken" .text
      let values ← m.withDefault "parameterValues" .empty
        .textDict
      let initiator ← m.withDefault "initiator" default
        CommandInitiator.reader
      let initiatorId ← m.optionalDefault "initiatorId" .text
      some (commandInvocation token values initiator
        initiatorId)
  | "commandResponse" => do
      let m ← t.members?
        ["originatingEventId", "responseEventId",
          "response"] p
      let originating ← m.required "originatingEventId" .text
      let responseId ← m.optionalDefault "responseEventId"
        .text
      let response ← m.required "response" .text
      some (commandResponse originating responseId response)
  | _ => none

open Json in
/- Read the JSON form. -/
def reader : Reader EventKind :=
  fun p d =>
    (Members.tagged? "type" names p d).bind (ofTagged? p)

end EventKind

------------------------------------------------------------
-- Decoded Events
------------------------------------------------------------

/- An event as a device sent it. -/
structure DecodedEvent where
  hardwareId : String
  originator : Option String
  kind : EventKind
  eventDate : Option Instant
  metadata : Dict String
  updateState : Bool
  deriving Inhabited

namespace DecodedEvent

/- An event that says nothing beyond its kind. -/
def new
    (hardwareId : String)
    (kind : EventKind) : DecodedEvent :=
  ⟨hardwareId, none, kind, none, .empty, false⟩

/- The JSON form. -/
def toJson
    (e : DecodedEvent) : Json :=
  .record
    [("hardwareId", .text e.hardwareId),
      ("originator", .text? e.originator),
      ("kind", e.kind.toJson),
      ("eventDate", .ofOption .instant e.eventDate),
      ("metadata", .textDict e.metadata),
      ("updateState", .bool e.updateState)]

open Json in
/- Read the JSON form. -/
def reader : Reader DecodedEvent :=
  fun p d => do
    let m ← Members.of?
      ["hardwareId", "originator", "kind", "eventDate",
        "metadata", "updateState"] p d
    let hardwareId ← m.required "hardwareId" .text
    let originator ← m.optionalDefault "originator" .text
    let kind ← m.required "kind" EventKind.reader
    let eventDate ← m.optionalDefault "eventDate" .instant
    let metadata ← m.withDefault "metadata" .empty .textDict
    let updateState ← m.withDefault "updateState" false .bool
    some ⟨hardwareId, originator, kind, eventDate, metadata,
      updateState⟩

end DecodedEvent

------------------------------------------------------------
-- Stored Events
------------------------------------------------------------

/- An event as it is kept, under an id and with dates. -/
structure StoredEvent where
  id : String
  hardwareId : String
  assignmentToken : Option String
  originator : Option String
  kind : EventKind
  eventDate : Instant
  receivedDate : Instant
  metadata : Dict String
  deriving Inhabited

namespace StoredEvent

/- The JSON form. -/
def toJson
    (e : StoredEvent) : Json :=
  .record
    [("id", .text e.id),
      ("hardwareId", .text e.hardwareId),
      ("assignmentToken", .text? e.assignmentToken),
      ("originator", .text? e.originator),
      ("kind", e.kind.toJson),
      ("eventDate", .instant e.eventDate),
      ("receivedDate", .instant e.receivedDate),
      ("metadata", .textDict e.metadata)]

open Json in
/- Read the JSON form. -/
def reader : Reader StoredEvent :=
  fun p d => do
    let m ← Members.of?
      ["id", "hardwareId", "assignmentToken", "originator",
        "kind", "eventDate", "receivedDate", "metadata"] p d
    let id ← m.required "id" .text
    let hardwareId ← m.required "hardwareId" .text
    let assignmentToken ← m.optional "assignmentToken" .text
    let originator ← m.optional "originator" .text
    let kind ← m.required "kind" EventKind.reader
    let eventDate ← m.required "eventDate" .instant
    let receivedDate ← m.required "receivedDate" .instant
    let metadata ← m.withDefault "metadata" .empty .textDict
    some ⟨id, hardwareId, assignmentToken, originator, kind,
      eventDate, receivedDate, metadata⟩

end StoredEvent

end DeviceHub
