import DeviceHub.Model.Command
import DeviceHub.Model.Search
import DeviceHub.Store.Error

/-
  A store of devices, assignments, commands, groups and
  events, each found by its token or id.

  Key definitions include:
    * `DeviceStore`
    * `DeviceStore.createEvent`
    * `DeviceStore.updateState`
    * `DeviceStore.listDevices`
    * `DeviceStore.devicesOfGroup`
    * `DeviceStore.devicesWithRole`
-/

namespace DeviceHub

------------------------------------------------------------
-- The Store
------------------------------------------------------------

/- Devices that are addressed together. -/
structure DeviceGroup where
  token : String
  roles : List String
  members : List String
  deriving DecidableEq, Inhabited, Repr

open Json in
/- Read the JSON form; roles and members may be left out. -/
def DeviceGroup.reader : Reader DeviceGroup :=
  fun p d => do
    let m ← Members.of? ["token", "roles", "members"] p d
    let token ← m.required "token" .text
    let roles ← m.optional "roles" (.list .text)
    let members ← m.optional "members" (.list .text)
    some ⟨token, roles.getD [], members.getD []⟩

/- All that is known of devices. -/
structure DeviceStore where
  devices : Dict Device
  assignments : Dict DeviceAssignment
  commands : Dict CommandDefinition
  groups : Dict DeviceGroup
  events : Dict (List StoredEvent)
  deriving Inhabited

namespace DeviceStore

/- The store that holds nothing. -/
def empty : DeviceStore :=
  ⟨.empty, .empty, .empty, .empty, .empty⟩

/- Add a device or replace the one with its id. -/
def addDevice
    (s : DeviceStore)
    (d : Device) : DeviceStore :=
  { s with devices := s.devices.insert d.hardwareId d }

/- Add an assignment and point its device at it. -/
def addAssignment
    (s : DeviceStore)
    (a : DeviceAssignment) : DeviceStore :=
  let devices :=
    match s.devices.get? a.hardwareId with
    | some d =>
        s.devices.insert a.hardwareId
          { d with assignmentToken := some a.token }
    | none => s.devices
  { s with
    devices := devices
    assignments := s.assignments.insert a.token a }

/- Add a command or replace the one with its token. -/
def addCommand
    (s : DeviceStore)
    (c : CommandDefinition) : DeviceStore :=
  { s with commands := s.commands.insert c.token c }

/- Add a group or replace the one with its token. -/
def addGroup
    (s : DeviceStore)
    (g : DeviceGroup) : DeviceStore :=
  { s with groups := s.groups.insert g.token g }

open Json in
/- Read the contents of a store; each part may be left out. -/
def reader : Reader DeviceStore :=
  fun p d => do
    let m ← Members.of?
      ["devices", "assignments", "commands", "groups"] p d
    let devices ← m.optional "devices" (.list Device.reader)
    let assignments ← m.optional "assignments"
      (.list DeviceAssignment.reader)
    let commands ← m.optional "commands"
      (.list CommandDefinition.reader)
    let groups ← m.optional "groups"
      (.list DeviceGroup.reader)
    let s := (devices.getD []).foldl addDevice empty
    let s := (assignments.getD []).foldl addAssignment s
    let s := (commands.getD []).foldl addCommand s
    some ((groups.getD []).foldl addGroup s)

------------------------------------------------------------
-- Events
------------------------------------------------------------

/- The events of a device, oldest first. -/
def eventsOf
    (s : DeviceStore)
    (hardwareId : String) : List StoredEvent :=
  (s.events.get? hardwareId).getD []

/- The number of events of all devices. -/
def eventCount
    (s : DeviceStore) : Nat :=
  (s.events.entries.flatMap (·.2)).length

/- The form in which an event of a device is kept. -/
def stored
    (d : Device)
    (id : String)
    (now : Instant)
    (hardwareId : String)
    (e : DecodedEvent) : StoredEvent :=
  { id := id
    hardwareId := hardwareId
    assignmentToken := d.assignmentToken
    originator := e.originator
    kind := e.kind
    eventDate := e.eventDate.getD now
    receivedDate := now
    metadata := e.metadata }

/- Keep an event of a known device. -/
def createEvent
    (s : DeviceStore)
    (id : String)
    (now : Instant)
    (hardwareId : String)
    (e : DecodedEvent) :
    Except StoreError (StoredEvent × DeviceStore) :=
  match s.devices.get? hardwareId with
  | none => .error (.unknownDevice hardwareId)
  | some d =>
      let event := stored d id now hardwareId e
      .ok (event, { s with
        events := s.events.insert hardwareId
          (s.eventsOf hardwareId ++ [event]) })

------------------------------------------------------------
-- Assignment States
------------------------------------------------------------

/- What an event changes in the state of an assignment. -/
def stateAfter
    (state : AssignmentState)
    (e : StoredEvent) : AssignmentState :=
  let state := { state with
    lastInteractionDate := some e.eventDate }
  match e.kind with
  | .measurements values =>
      { state with
        latestMeasurements :=
          state.latestMeasurements.union values }
  | .location latitude longitude elevation =>
      { state with
        lastLocation := some ⟨latitude, longitude, elevation⟩ }
  | .alert level alertType message =>
      { state with
        lastAlert := some ⟨level, alertType, message⟩ }
  | .commandInvocation .. => state
  | .commandResponse .. => state

/- Let an event change the state of its device's use. -/
def updateState
    (s : DeviceStore)
    (hardwareId : String)
    (e : StoredEvent) : Except StoreError DeviceStore :=
  match s.devices.get? hardwareId with
  | none => .error (.unknownDevice hardwareId)
  | some d =>
      match d.assignmentToken with
      | none => .error (.notAssigned hardwareId)
      | some token =>
          match s.assignments.get? token with
          | none => .error (.unknownAssignment token)
          | some a =>
              .ok { s with
                assignments := s.assignments.insert token
                  { a with state := stateAfter a.state e } }

------------------------------------------------------------
-- Searches
------------------------------------------------------------

/- The order of search results: creation date, then id. -/
def comesBefore
    (a b : Device) : Bool :=
  a.createdDate.before b.createdDate ||
    (a.createdDate == b.createdDate &&
      !(b.hardwareId < a.hardwareId))

/- All devices that a search asks for, in order. -/
def matching
    (s : DeviceStore)
    (search : DeviceSearch) : List Device :=
  ((s.devices.entries.map (·.2)).filter
    search.accepts).mergeSort comesBefore

/- A page of the devices that a search asks for. -/
def listDevices
    (s : DeviceStore)
    (search : DeviceSearch) : PagedResult Device :=
  let found := s.matching search
  ⟨found.length, search.page found⟩

/-
  The devices among ids that a search asks for, leaving out
  the ids seen before.
-/
def select
    (s : DeviceStore)
    (search : DeviceSearch)
    (seen : List String) : List String → List Device
  | [] => []
  | id :: rest =>
      if seen.contains id then
        select s search seen rest
      else
        match (s.devices.get? id).filter search.accepts with
        | some d => d :: select s search (id :: seen) rest
        | none => select s search (id :: seen) rest

/- The members of a group that a search asks for. -/
def devicesOfGroup
    (s : DeviceStore)
    (token : String)
    (search : DeviceSearch) : List Device :=
  match s.groups.get? token with
  | some g => search.page (s.select search [] g.members)
  | none => []

/- The members of all groups with a role. -/
def membersWithRole
    (s : DeviceStore)
    (role : String) : List String :=
  ((s.groups.entries.map (·.2)).filter
    (·.roles.contains role)).flatMap (·.members)

/- The members with a role that a search asks for. -/
def devicesWithRole
    (s : DeviceStore)
    (role : String)
    (search : DeviceSearch) : List Device :=
  search.page
    (s.select search [] (s.membersWithRole role))

end DeviceStore

end DeviceHub
