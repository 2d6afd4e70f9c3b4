import DeviceHub.Batch.Action
import DeviceHub.Batch.Engine
import DeviceHub.Hub.Equipment

/-
  A hub: supervised components, their equipment, the batch
  engine, and the calls that have not been answered.

  Key definitions include:
    * `Answer`
    * `CallPhase`
    * `Hub`
    * `Hub.status`
    * `Hub.control`
-/

namespace DeviceHub

------------------------------------------------------------
-- Calls
------------------------------------------------------------

/- The answer of a call. -/
inductive Answer where
  | payload (result : Except PipelineError PayloadReport)
  | delivery (result : Except CommandError DeliveryReceipt)
  | batch (result : Except BatchError BatchOperation)

/- A delivery that waits at a destination. -/
structure Shipment where
  place : Nat
  receipt : DeliveryReceipt
  deriving Inhabited

/-
  How far a call has come.  One that processes an operation
  may wait for the delivery of its current element, whose
  metadata is kept till then.
-/
inductive CallPhase where
  | delivering (shipment : Shipment)
  | processing (current : Option (Shipment × Dict String))
  | answered (answer : Answer)

/-
  A call with its ticket, and the name that it can be asked
  for by.  A call that has lost its name to a later one
  goes on all the same.
-/
structure Call where
  name : Option String
  ticket : Nat
  phase : CallPhase

/- The shipment that a call waits for. -/
def Call.shipment?
    (c : Call) : Option Shipment :=
  match c.phase with
  | .delivering s => some s
  | .processing current => current.map (·.1)
  | .answered _ => none

/- Whether a call is over. -/
def Call.isAnswered
    (c : Call) : Bool :=
  match c.phase with
  | .answered _ => true
  | _ => false

------------------------------------------------------------
-- Hubs
------------------------------------------------------------

/-
  A hub.  Batch operations deliver through the router or
  straight through the destination `via`.
-/
structure Hub where
  forest : List (Tree Part)
  equipment : Equipment
  engine : BatchEngine
  via : Option Nat
  calls : List Call
  nextTicket : Nat

namespace Hub

/- The component of a part with those below it. -/
def tree?
    (h : Hub)
    (part : Part) : Option (Tree Part) :=
  (Tree.partsOfAll h.forest).find? (·.self.label = part)

/- Where a part stands. -/
def status
    (h : Hub)
    (part : Part) : Status :=
  ((h.tree? part).map Tree.status).getD .stopped

/- The time. -/
def now
    (h : Hub) : Instant :=
  h.equipment.backend.now

/- Change the equipment. -/
def equip
    (h : Hub)
    (f : Equipment → Equipment) : Hub :=
  { h with equipment := f h.equipment }

/- Change the storage. -/
def setBackend
    (h : Hub)
    (b : Backend) : Hub :=
  h.equip fun e => { e with backend := b }

/- Change what is kept in the storage. -/
def mapStore
    (h : Hub)
    (f : DeviceStore → DeviceStore) : Hub :=
  h.equip fun e => { e with backend :=
    { e.backend with store := f e.backend.store } }

/- Ask the component of a part to do something. -/
def control
    (h : Hub)
    (part : Part)
    (action : LifecycleAction) :
    Option (Except LifecycleError Status × Hub) := do
  let ((result, equipment), forest) ←
    Tree.visitFirst? (fun c => c.label = part)
      (fun t =>
        let o := t.call Equipment.hooks action h.equipment
        ((o.result, o.state), o.tree))
      h.forest
  some (result,
    { h with forest := forest, equipment := equipment })

------------------------------------------------------------
-- Addresses
------------------------------------------------------------

/- The place of the first pipeline of a source. -/
def pipelinePlace?
    (h : Hub)
    (sourceId : String) : Option Nat :=
  h.equipment.pipelines.findIdx?
    (·.config.sourceId == sourceId)

/- The place of the first destination with an id. -/
def destinationPlace?
    (h : Hub)
    (id : String) : Option Nat :=
  h.equipment.destinations.findIdx? (·.id == id)

/- The part at an address: a word, or a word and an id. -/
def part?
    (h : Hub)
    (address : String) : Option Part :=
  match Text.splitFirst? ':' address with
  | some ("pipeline", id) =>
      (h.pipelinePlace? id).map Part.pipeline
  | some ("destination", id) =>
      (h.destinationPlace? id).map Part.destination
  | some ("module", id) => some (.assetModule id)
  | some _ => none
  | none =>
      [("supervisor", Part.supervisor), ("router", .router),
        ("batch", .batch), ("assets", .assets)].lookup address

end Hub

end DeviceHub
