import DeviceHub.Batch.Request

/-
  Batch operations and the progress of their elements.

  Key definitions include:
    * `ElementStatus`
    * `BatchElement`
    * `BatchElement.succeed`
    * `BatchElement.fail`
    * `OperationStatus`
    * `BatchOperation`
    * `BatchOperation.status`
    * `BatchOperation.isFinished`
-/

namespace DeviceHub

------------------------------------------------------------
-- Elements
------------------------------------------------------------

/- What became of an element. -/
inductive ElementStatus where
  | unprocessed
  | succeeded
  | failed
  deriving DecidableEq, Inhabited, Repr

namespace ElementStatus

/- The name of a status. -/
def name : ElementStatus → String
  | unprocessed => "Unprocessed"
  | succeeded => "Succeeded"
  | failed => "Failed"

/- The JSON form. -/
def toJson
    (s : ElementStatus) : Json :=
  .text s.name

/- Read the JSON form. -/
def reader : Json.Reader ElementStatus :=
  .name ([unprocessed, succeeded, failed].map fun s =>
    (s.name, s))

end ElementStatus

/- One device of an operation. -/
structure BatchElement where
  index : Nat
  hardwareId : String
  status : ElementStatus
  processedDate : Option Instant
  error : Option String
  metadata : Dict String
  deriving Inhabited

namespace BatchElement

/- An element that has not been processed. -/
def new
    (index : Nat)
    (hardwareId : String) : BatchElement :=
  ⟨index, hardwareId, .unprocessed, none, none, .empty⟩

/- Whether anything became of an element. -/
def isProcessed
    (e : BatchElement) : Bool :=
  e.status != .unprocessed

/- An element whose action succeeded. -/
def succeed
    (e : BatchElement)
    (now : Instant)
    (metadata : Dict String) : BatchElement :=
  { e with
    status := .succeeded
    processedDate := some now
    metadata := e.metadata.union metadata }

/- An element whose action failed. -/
def fail
    (e : BatchElement)
    (now : Instant)
    (error : String) : BatchElement :=
  { e with
    status := .failed
    processedDate := some now
    error := some error }

/- An element after its action. -/
def settle
    (e : BatchElement)
    (now : Instant)
    (result : Except String (Dict String)) : BatchElement :=
  match result with
  | .ok metadata => e.succeed now metadata
  | .error error => e.fail now error

/- The JSON form. -/
def toJson
    (e : BatchElement) : Json :=
  .record
    [("index", .nat e.index),
      ("hardwareId", .text e.hardwareId),
      ("status", e.status.toJson),
      ("processedDate", .ofOption .instant e.processedDate),
      ("error", .text? e.error),
      ("metadata", .textDict e.metadata)]

open Json in
/- Read the JSON form. -/
def reader : Reader BatchElement :=
  fun p d => do
    let m ← Members.of?
      ["index", "hardwareId", "status", "processedDate",
        "error", "metadata"] p d
    let index ← m.required "index" (.nat 64)
    let hardwareId ← m.required "hardwareId" .text
    let status ← m.required "status" ElementStatus.reader
    let date ← m.optional "processedDate" .instant
    let error ← m.optional "error" .text
    let metadata ← m.withDefault "metadata" .empty .textDict
    some ⟨index, hardwareId, status, date, error, metadata⟩

end BatchElement

------------------------------------------------------------
-- Operations
------------------------------------------------------------

/- What became of an operation as a whole. -/
inductive OperationStatus where
  | processing
  | succeeded
  | failed
  deriving DecidableEq, Inhabited, Repr

namespace OperationStatus

/- The name of a status. -/
def name : OperationStatus → String
  | processing => "Processing"
  | succeeded => "Succeeded"
  | failed => "Failed"

/- The JSON form. -/
def toJson
    (s : OperationStatus) : Json :=
  .text s.name

/- Read the JSON form. -/
def reader : Json.Reader OperationStatus :=
  .name ([processing, succeeded, failed].map fun s =>
    (s.name, s))

end OperationStatus

/- An action on many devices, and how far it has come. -/
structure BatchOperation where
  id : String
  action : BatchAction
  criteria : String
  elements : List BatchElement
  createdDate : Instant
  processingStartedDate : Option Instant
  processingEndedDate : Option Instant
  metadata : Dict String
  deriving Inhabited

namespace BatchOperation

/- A new operation on the devices with the given ids. -/
def ofRequest
    (r : BatchRequest)
    (id : String)
    (hardwareIds : List String)
    (now : Instant) : BatchOperation :=
  { id := id
    action := r.action
    criteria := r.targets.toJson.compact
    elements := hardwareIds.mapIdx BatchElement.new
    createdDate := now
    processingStartedDate := none
    processingEndedDate := none
    metadata := r.metadata }

/- One failure fails all; success takes every element. -/
def status
    (o : BatchOperation) : OperationStatus :=
  if o.elements.any (·.status == .failed) then
    .failed
  else if o.elements.all (·.status == .succeeded) then
    .succeeded
  else
    .processing

/- Whether every element has been processed. -/
def isFinished
    (o : BatchOperation) : Bool :=
  o.elements.all (·.isProcessed)

/- The number of elements with a status. -/
def count
    (o : BatchOperation)
    (s : ElementStatus) : Nat :=
  o.elements.countP (·.status == s)

/- The elements still to be processed. -/
def remaining
    (o : BatchOperation) : List BatchElement :=
  o.elements.filter (!·.isProcessed)

/- Note when processing began, the first time. -/
def markStarted
    (o : BatchOperation)
    (now : Instant) : BatchOperation :=
  { o with processingStartedDate :=
    o.processingStartedDate.or (some now) }

/- Note when processing ended, once all is done. -/
def markEnded
    (o : BatchOperation)
    (now : Instant) : BatchOperation :=
  if o.isFinished then
    { o with processingEndedDate :=
      o.processingEndedDate.or (some now) }
  else
    o

/- Write the result of an element's action back. -/
def settle
    (o : BatchOperation)
    (index : Nat)
    (now : Instant)
    (result : Except String (Dict String)) :
    BatchOperation :=
  { o with elements :=
    o.elements.modify index fun e => e.settle now result }

/- The JSON form. -/
def toJson
    (o : BatchOperation) : Json :=
  .record
    [("id", .text o.id), ("action", o.action.toJson),
      ("criteria", .text o.criteria),
      ("elements",
        .list (o.elements.map BatchElement.toJson)),
      ("createdDate", .instant o.createdDate),
      ("processingStartedDate",
        .ofOption .instant o.processingStartedDate),
      ("processingEndedDate",
        .ofOption .instant o.processingEndedDate),
      ("metadata", .textDict o.metadata)]

open Json in
/- Read the JSON form. -/
def reader : Reader BatchOperation :=
  fun p d => do
    let m ← Members.of?
      ["id", "action", "criteria", "elements",
        "createdDate", "processingStartedDate",
        "processingEndedDate", "metadata"] p d
    let id ← m.required "id" .text
    let action ← m.required "action" BatchAction.reader
    let criteria ← m.required "criteria" .text
    let elements ← m.required "elements"
      (.list BatchElement.reader)
    let createdDate ← m.required "createdDate" .instant
    let started ← m.optional "processingStartedDate" .instant
    let ended ← m.optional "processingEndedDate" .instant
    let metadata ← m.withDefault "metadata" .empty .textDict
    some ⟨id, action, criteria, elements, createdDate,
      started, ended, metadata⟩

end BatchOperation

end DeviceHub
