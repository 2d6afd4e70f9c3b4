import DeviceHub.Batch.Operation
import DeviceHub.Store.Backend

/-
  What it takes to carry out the action of a batch operation
  on one device.

  A change of state is done within the storage.  A command
  is first recorded as an event, and the id of that event
  becomes the id of the invocation to be delivered.

  Key definitions include:
    * `BatchOperation.invocationEvent`
    * `BatchOperation.prepareCommand`
    * `BatchOperation.changeState`
    * `ElementWork`
    * `BatchOperation.act`
-/

namespace DeviceHub

namespace BatchOperation

------------------------------------------------------------
-- Commands
------------------------------------------------------------

/- The metadata that names the operation. -/
def reference
    (o : BatchOperation) : Dict String :=
  .ofList [("batchOperationId", o.id)]

/- The event that records a command of an operation. -/
def invocationEvent
    (o : BatchOperation)
    (hardwareId commandToken : String)
    (values : Dict String) : DecodedEvent :=
  { DecodedEvent.new hardwareId
      (.commandInvocation commandToken values
        .batchOperation (some o.id)) with
    metadata := o.reference }

/- The invocation that goes with a recorded event. -/
def invocation
    (o : BatchOperation)
    (eventId commandToken : String)
    (values : Dict String) : CommandInvocation :=
  { id := eventId
    commandToken := commandToken
    parameterValues := values
    initiator := .batchOperation
    initiatorId := some o.id
    metadata := o.reference }

/- Refuse devices that are unknown or not assigned. -/
def checkAssigned
    (b : Backend)
    (hardwareId : String) : Except StoreError Unit := do
  match ← b.getDevice hardwareId with
  | none => .error (.unknownDevice hardwareId)
  | some d =>
      if d.isAssigned then
        .ok ()
      else
        .error (.notAssigned hardwareId)

/- Record a command and make its invocation. -/
def prepareCommand
    (o : BatchOperation)
    (b : Backend)
    (hardwareId commandToken : String)
    (values : Dict String) :
    Except StoreError (CommandInvocation × Backend) := do
  checkAssigned b hardwareId
  let (stored, b) ← b.createEvent hardwareId
    (o.invocationEvent hardwareId commandToken values)
  return (o.invocation stored.id commandToken values, b)

------------------------------------------------------------
-- States
------------------------------------------------------------

/-
  Record an event and let it change the state of the
  device's use.  The event stays recorded when the state
  cannot be changed.
-/
def changeState
    (b : Backend)
    (hardwareId : String)
    (kind : EventKind)
    (metadata : Dict String) :
    Except StoreError StoredEvent × Backend :=
  let event := { DecodedEvent.new hardwareId kind with
    updateState := true
    metadata := metadata }
  match b.createEvent hardwareId event with
  | .error e => (.error e, b)
  | .ok (stored, b) =>
      match b.updateState hardwareId stored with
      | .error e => (.error e, b)
      | .ok b => (.ok stored, b)

------------------------------------------------------------
-- Elements
------------------------------------------------------------

/- What is left of an element's action. -/
inductive ElementWork where
  | done (result : Except String (Dict String))
  | deliver
      (invocation : CommandInvocation)
      (metadata : Dict String)

/- Carry out the action on a device up to a delivery. -/
def act
    (o : BatchOperation)
    (b : Backend)
    (hardwareId : String) : ElementWork × Backend :=
  match o.action with
  | .invokeCommand token values =>
      match o.prepareCommand b hardwareId token values with
      | .error e => (.done (.error e.message), b)
      | .ok (i, b) =>
          (.deliver i (.ofList [("invocationEventId", i.id)]),
            b)
  | .updateState kind metadata =>
      let (result, b) := changeState b hardwareId kind metadata
      match result with
      | .error e => (.done (.error e.message), b)
      | .ok stored =>
          (.done (.ok (.ofList [("stateEventId", stored.id)])),
            b)

/- The result of an element whose command was delivered. -/
def delivered
    {α : Type}
    (metadata : Dict String)
    (result : Except String α) : Except String (Dict String) :=
  result.map fun _ => metadata

end BatchOperation

end DeviceHub
