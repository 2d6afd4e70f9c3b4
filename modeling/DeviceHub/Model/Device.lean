import DeviceHub.Model.Event

/-
  Devices and their assignments.

  Key definitions include:
    * `Device`
    * `AssignmentStatus`
    * `Location`
    * `AlertSummary`
    * `AssignmentState`
    * `DeviceAssignment`
-/

namespace DeviceHub

------------------------------------------------------------
-- Devices
------------------------------------------------------------

/- A known piece of hardware. -/
structure Device where
  hardwareId : String
  specificationToken : String
  assignmentToken : Option String
  createdDate : Instant
  metadata : Dict String
  deriving Inhabited

namespace Device

/- A device without assignment. -/
def new
    (hardwareId specificationToken : String)
    (createdDate : Instant) : Device :=
  ⟨hardwareId, specificationToken, none, createdDate, .empty⟩

/- Whether a device points to an assignment. -/
def isAssigned
    (d : Device) : Bool :=
  d.assignmentToken.isSome

/- The JSON form. -/
def toJson
    (d : Device) : Json :=
  .record
    [("hardwareId", .text d.hardwareId),
      ("specificationToken", .text d.specificationToken),
      ("assignmentToken", .text? d.assignmentToken),
      ("createdDate", .instant d.createdDate),
      ("metadata", .textDict d.metadata)]

open Json in
/- Read the JSON form. -/
def reader : Reader Device :=
  fun p d => do
    let m ← Members.of?
      ["hardwareId", "specificationToken",
        "assignmentToken", "createdDate", "metadata"] p d
    let hardwareId ← m.required "hardwareId" .text
    let specification ← m.required "specificationToken" .text
    let assignment ← m.optionalDefault "assignmentToken"
      .text
    let createdDate ← m.required "createdDate" .instant
    let metadata ← m.withDefault "metadata" .empty .textDict
    some ⟨hardwareId, specification, assignment, createdDate,
      metadata⟩

end Device

------------------------------------------------------------
-- Parts of an Assignment
------------------------------------------------------------

/- Whether an assignment is in force. -/
inductive AssignmentStatus where
  | active
  | missing
  | released
  deriving DecidableEq, Repr

namespace AssignmentStatus

instance : Inhabited AssignmentStatus :=
  ⟨active⟩

/- All statuses. -/
def all : List AssignmentStatus :=
  [active, missing, released]

/- The name of a status. -/
def name : AssignmentStatus → String
  | active => "Active"
  | missing => "Missing"
  | released => "Released"

/- The JSON form. -/
def toJson
    (s : AssignmentStatus) : Json :=
  .text s.name

/- Read the JSON form. -/
def reader : Json.Reader AssignmentStatus :=
  .name (all.map fun s => (s.name, s))

end AssignmentStatus

/- A position. -/
structure Location where
  latitude : Binary64
  longitude : Binary64
  elevation : Option Binary64
  deriving DecidableEq, Inhabited, Repr

namespace Location

/- The JSON form. -/
def toJson
    (l : Location) : Json :=
  .record
    [("latitude", .real l.latitude),
      ("longitude", .real l.longitude),
      ("elevation", .ofOption .real l.elevation)]

open Json in
/- Read the JSON form. -/
def reader : Reader Location :=
  fun p d => do
    let m ← Members.of?
      ["latitude", "longitude", "elevation"] p d
    let latitude ← m.required "latitude" .real
    let longitude ← m.required "longitude" .real
    let elevation ← m.optional "elevation" .real
    some ⟨latitude, longitude, elevation⟩

end Location

/- What an alert said. -/
structure AlertSummary where
  level : AlertLevel
  alertType : String
  message : String
  deriving DecidableEq, Inhabited, Repr

namespace AlertSummary

/- The JSON form. -/
def toJson
    (a : AlertSummary) : Json :=
  .record
    [("level", a.level.toJson),
      ("alertType", .text a.alertType),
      ("message", .text a.message)]

open Json in
/- Read the JSON form. -/
def reader : Reader AlertSummary :=
  fun p d => do
    let m ← Members.of? ["level", "alertType", "message"] p d
    let level ← m.required "level" AlertLevel.reader
    let alertType ← m.required "alertType" .text
    let message ← m.required "message" .text
    some ⟨level, alertType, message⟩

end AlertSummary

/- The latest that is known of an assignment. -/
structure AssignmentState where
  lastInteractionDate : Option Instant
  lastLocation : Option Location
  latestMeasurements : Dict Binary64
  lastAlert : Option AlertSummary

namespace AssignmentState

/- Nothing known yet. -/
def initial : AssignmentState :=
  ⟨none, none, .empty, none⟩

instance : Inhabited AssignmentState :=
  ⟨initial⟩

/- The JSON form. -/
def toJson
    (s : AssignmentState) : Json :=
  .record
    [("lastInteractionDate",
        .ofOption .instant s.lastInteractionDate),
      ("lastLocation",
        .ofOption Location.toJson s.lastLocation),
      ("latestMeasurements",
        .ofDict .real s.latestMeasurements),
      ("lastAlert",
        .ofOption AlertSummary.toJson s.lastAlert)]

open Json in
/- Read the JSON form. -/
def reader : Reader AssignmentState :=
  fun p d => do
    let m ← Members.of?
      ["lastInteractionDate", "lastLocation",
        "latestMeasurements", "lastAlert"] p d
    let date ← m.optional "lastInteractionDate" .instant
    let location ← m.optional "lastLocation" Location.reader
    let latest ← m.withDefault "latestMeasurements" .empty
      (.dict .real)
    let alert ← m.optional "lastAlert" AlertSummary.reader
    some ⟨date, location, latest, alert⟩

end AssignmentState

------------------------------------------------------------
-- Assignments
------------------------------------------------------------

/- The use a device is put to. -/
structure DeviceAssignment where
  token : String
  hardwareId : String
  status : AssignmentStatus
  assetModuleId : Option String
  assetId : Option String
  state : AssignmentState
  metadata : Dict String
  deriving Inhabited

namespace DeviceAssignment

/- An active assignment without asset. -/
def new
    (token hardwareId : String) : DeviceAssignment :=
  ⟨token, hardwareId, .active, none, none, .initial, .empty⟩

/- The JSON form. -/
def toJson
    (a : DeviceAssignment) : Json :=
  .record
    [("token", .text a.token),
      ("hardwareId", .text a.hardwareId),
      ("status", a.status.toJson),
      ("assetModuleId", .text? a.assetModuleId),
      ("assetId", .text? a.assetId),
      ("state", a.state.toJson),
      ("metadata", .textDict a.metadata)]

open Json in
/- Read the JSON form. -/
def reader : Reader DeviceAssignment :=
  fun p d => do
    let m ← Members.of?
      ["token", "hardwareId", "status", "assetModuleId",
        "assetId", "state", "metadata"] p d
    let token ← m.required "token" .text
    let hardwareId ← m.required "hardwareId" .text
    let status ← m.withDefault "status" default
      AssignmentStatus.reader
    let moduleId ← m.optional "assetModuleId" .text
    let assetId ← m.optional "assetId" .text
    let state ← m.withDefault "state" default
      AssignmentState.reader
    let metadata ← m.withDefault "metadata" .empty .textDict
    some ⟨token, hardwareId, status, moduleId, assetId,
      state, metadata⟩

end DeviceAssignment

end DeviceHub
