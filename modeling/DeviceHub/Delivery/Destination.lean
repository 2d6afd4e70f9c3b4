import DeviceHub.Codec.Registry
import DeviceHub.Delivery.Transport
import DeviceHub.Lifecycle.Tree
import DeviceHub.Store.Backend

/-
  Destinations: a way to encode commands, a way to find
  their topics, and a transport.

  A command is resolved, given its topics and encoded before
  the transport sees it, so an error of an earlier stage
  means that it was never sent.

  Key definitions include:
    * `DeliveryReceipt`
    * `DestinationMetrics`
    * `Destination`
    * `Destination.prepare`
    * `Destination.begin`
    * `Destination.conclude`
-/

namespace DeviceHub

------------------------------------------------------------
-- Receipts and Counts
------------------------------------------------------------

/- The record of a command handed to a transport. -/
structure DeliveryReceipt where
  destinationId : String
  invocationId : String
  hardwareId : String
  deliveredAt : Instant
  deriving DecidableEq, Inhabited, Repr

namespace DeliveryReceipt

/- The JSON form. -/
def toJson
    (r : DeliveryReceipt) : Json :=
  .record
    [("destinationId", .text r.destinationId),
      ("invocationId", .text r.invocationId),
      ("hardwareId", .text r.hardwareId),
      ("deliveredAt", .instant r.deliveredAt)]

open Json in
/- Read the JSON form. -/
def reader : Reader DeliveryReceipt :=
  fun p d => do
    let m ← Members.of?
      ["destinationId", "invocationId", "hardwareId",
        "deliveredAt"] p d
    let destinationId ← m.required "destinationId" .text
    let invocationId ← m.required "invocationId" .text
    let hardwareId ← m.required "hardwareId" .text
    let deliveredAt ← m.required "deliveredAt" .instant
    some ⟨destinationId, invocationId, hardwareId,
      deliveredAt⟩

end DeliveryReceipt

/- What a destination has done so far. -/
structure DestinationMetrics where
  delivered : Nat
  failed : Nat
  deriving DecidableEq, Inhabited, Repr

namespace DestinationMetrics

/- The JSON form. -/
def toJson
    (m : DestinationMetrics) : Json :=
  .record
    [("delivered", .nat m.delivered),
      ("failed", .nat m.failed)]

open Json in
/- Read the JSON form. -/
def reader : Reader DestinationMetrics :=
  fun p d => do
    let m ← Members.of? ["delivered", "failed"] p d
    let delivered ← m.required "delivered" (.nat 64)
    let failed ← m.required "failed" (.nat 64)
    some ⟨delivered, failed⟩

end DestinationMetrics

------------------------------------------------------------
-- Destinations
------------------------------------------------------------

/- The encoding of a destination's commands. -/
inductive Encoding where
  | json
  | binary
  | text
  deriving DecidableEq, Inhabited, Repr

/- The encoded form of a command. -/
def Encoding.encode
    (c : Encoding)
    (e : CommandExecution) : Except CodecError Encoded :=
  match c with
  | json => e.toJsonBytes.map Encoded.bytes
  | binary => e.toFrameBytes.map Encoded.bytes
  | text => e.toLine.map Encoded.line

/- A way for commands to leave; some need no topics. -/
structure Destination where
  id : String
  encoding : Encoding
  templates : Option TopicTemplates
  transport : Transport
  metrics : DestinationMetrics
  deriving Inhabited

namespace Destination

/- A destination that has delivered nothing. -/
def new
    (id : String)
    (encoding : Encoding)
    (templates : Option TopicTemplates)
    (transport : Transport) : Destination :=
  ⟨id, encoding, templates, transport, ⟨0, 0⟩⟩

/- The name of the component. -/
def componentName
    (id : String) : String :=
  "destination:" ++ id

/- A failure of the transport, as one of the component. -/
def componentError
    (d : Destination)
    (r : Except DeliveryError Unit) :
    Except LifecycleError Unit :=
  match r with
  | .ok _ => .ok ()
  | .error e =>
      .error (.failed (componentName d.id) e.message)

------------------------------------------------------------
-- Stages of a Delivery
------------------------------------------------------------

/- The topics of a device, if the destination needs any. -/
def topicsFor
    (d : Destination)
    (hardwareId : String) :
    Except CommandError (Option TopicParams) :=
  match d.templates with
  | none => .ok none
  | some t => (t.topicsFor hardwareId).map some

/- A device, which has to be known. -/
def findDevice
    (b : Backend)
    (hardwareId : String) : Except CommandError Device :=
  match b.getDevice hardwareId with
  | .error e => .error (.management e)
  | .ok none => .error (.unknownDevice hardwareId)
  | .ok (some device) => .ok device

/- The assignment that a device points to. -/
def findAssignment
    (b : Backend)
    (device : Device)
    (hardwareId : String) :
    Except CommandError (String × DeviceAssignment) :=
  match device.assignmentToken with
  | none =>
      .error (.unknownAssignment
        s!"Device '{hardwareId}' is not currently assigned")
  | some token =>
      match b.getAssignment token with
      | .error e => .error (.management e)
      | .ok none => .error (.unknownAssignment token)
      | .ok (some a) => .ok (token, a)

/- The definition of a command. -/
def findCommand
    (b : Backend)
    (token : String) :
    Except CommandError CommandDefinition :=
  match b.getCommand token with
  | .error e => .error (.management e)
  | .ok none => .error (.encoding (.unknownCommand token))
  | .ok (some c) => .ok c

/- All it takes to encode an invocation for a device. -/
def resolve
    (b : Backend)
    (hardwareId : String)
    (invocation : CommandInvocation) :
    Except CommandError (Device × CommandExecution) := do
  let device ← findDevice b hardwareId
  let (token, _) ← findAssignment b device hardwareId
  let command ← findCommand b invocation.commandToken
  return (device, ⟨command, invocation, hardwareId, token⟩)

/- The message for the transport. -/
def prepare
    (d : Destination)
    (b : Backend)
    (hardwareId : String)
    (invocation : CommandInvocation) :
    Except CommandError Outbound := do
  let (device, execution) ← resolve b hardwareId invocation
  let params ← d.topicsFor device.hardwareId
  let encoded ←
    (d.encoding.encode execution).mapError
      CommandError.encoding
  return ⟨encoded, params⟩

/- The receipt of a delivery. -/
def receipt
    (d : Destination)
    (now : Instant)
    (hardwareId : String)
    (invocation : CommandInvocation) : DeliveryReceipt :=
  ⟨d.id, invocation.id, hardwareId, now⟩

/- Count a delivery and give its answer. -/
def conclude
    (d : Destination)
    (receipt : DeliveryReceipt)
    (result : Except CommandError Unit) :
    Except CommandError DeliveryReceipt × Destination :=
  match result with
  | .ok _ =>
      (.ok receipt, { d with metrics :=
        { d.metrics with
          delivered := d.metrics.delivered + 1 } })
  | .error e =>
      (.error e, { d with metrics :=
        { d.metrics with failed := d.metrics.failed + 1 } })

/- How far a delivery has come. -/
inductive Progress where
  | finished (result : Except CommandError DeliveryReceipt)
  | waiting (receipt : DeliveryReceipt)

/-
  Deliver a command under a ticket, as far as the transport
  takes it.
-/
def begin
    (d : Destination)
    (status : Status)
    (b : Backend)
    (ticket : Nat)
    (hardwareId : String)
    (invocation : CommandInvocation) :
    Progress × Destination :=
  let receipt := d.receipt b.now hardwareId invocation
  if status = .started then
    match d.prepare b hardwareId invocation with
    | .error e =>
        let (answer, d) := d.conclude receipt (.error e)
        (.finished answer, d)
    | .ok message =>
        let (offer, transport) :=
          d.transport.offer ticket message
        let d := { d with transport := transport }
        match offer with
        | .waits => (.waiting receipt, d)
        | .done r =>
            let (answer, d) := d.conclude receipt
              (r.mapError CommandError.delivery)
            (.finished answer, d)
  else
    (.finished (.error (.notRunning d.id)), d)

end Destination

end DeviceHub
