import DeviceHub.Store.Devices

/-
  The storage as the components of a hub reach it: a store,
  the clock it reads, the ids it gives out, and the calls
  that are out of order at the moment.

  Key definitions include:
    * `StorageCall`
    * `Backend`
    * `Backend.createEvent`
    * `Backend.getDevice`
-/

namespace DeviceHub

/- The calls that a storage answers. -/
inductive StorageCall where
  | createEvent
  | updateState
  | listDevices
  | getDevice
  | getAssignment
  | getCommand
  | group
  | role
  deriving DecidableEq, Inhabited, Repr

namespace StorageCall

/- All calls. -/
def all : List StorageCall :=
  [createEvent, updateState, listDevices, getDevice,
    getAssignment, getCommand, group, role]

/- The name of a call. -/
def name : StorageCall → String
  | createEvent => "createEvent"
  | updateState => "updateState"
  | listDevices => "listDevices"
  | getDevice => "getDevice"
  | getAssignment => "getAssignment"
  | getCommand => "getCommand"
  | group => "group"
  | role => "role"

end StorageCall

/- A storage in use. -/
structure Backend where
  store : DeviceStore
  now : Instant
  eventId : Nat → String
  created : Nat
  faults : List (StorageCall × String)

namespace Backend

/- A storage that has created nothing and has no faults. -/
def of
    (store : DeviceStore)
    (now : Instant)
    (eventId : Nat → String) : Backend :=
  ⟨store, now, eventId, 0, []⟩

/- Answer a call, unless it is out of order. -/
def guarded
    {α : Type}
    (b : Backend)
    (call : StorageCall)
    (answer : Except StoreError α) : Except StoreError α :=
  match b.faults.lookup call with
  | some detail => .error (.storage detail)
  | none => answer

/- Keep an event under the next id. -/
def createEvent
    (b : Backend)
    (hardwareId : String)
    (e : DecodedEvent) :
    Except StoreError (StoredEvent × Backend) :=
  b.guarded .createEvent do
    let (event, store) ← b.store.createEvent
      (b.eventId (b.created + 1)) b.now hardwareId e
    return (event,
      { b with store := store, created := b.created + 1 })

/- Let an event change the state of its device's use. -/
def updateState
    (b : Backend)
    (hardwareId : String)
    (e : StoredEvent) : Except StoreError Backend :=
  b.guarded .updateState do
    let store ← b.store.updateState hardwareId e
    return { b with store := store }

/- A page of the devices that a search asks for. -/
def listDevices
    (b : Backend)
    (search : DeviceSearch) :
    Except StoreError (PagedResult Device) :=
  b.guarded .listDevices (.ok (b.store.listDevices search))

/- The device with an id. -/
def getDevice
    (b : Backend)
    (hardwareId : String) :
    Except StoreError (Option Device) :=
  b.guarded .getDevice (.ok (b.store.devices.get? hardwareId))

/- The assignment with a token. -/
def getAssignment
    (b : Backend)
    (token : String) :
    Except StoreError (Option DeviceAssignment) :=
  b.guarded .getAssignment
    (.ok (b.store.assignments.get? token))

/- The command with a token. -/
def getCommand
    (b : Backend)
    (token : String) :
    Except StoreError (Option CommandDefinition) :=
  b.guarded .getCommand (.ok (b.store.commands.get? token))

/- The members of a group that a search asks for. -/
def devicesOfGroup
    (b : Backend)
    (token : String)
    (search : DeviceSearch) :
    Except StoreError (List Device) :=
  b.guarded .group (.ok (b.store.devicesOfGroup token search))

/- The members with a role that a search asks for. -/
def devicesWithRole
    (b : Backend)
    (role : String)
    (search : DeviceSearch) :
    Except StoreError (List Device) :=
  b.guarded .role (.ok (b.store.devicesWithRole role search))

end Backend

end DeviceHub
