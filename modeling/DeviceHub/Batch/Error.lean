import DeviceHub.Store.Error

/-
  What can go wrong with batch operations.

  Key definitions include:
    * `BatchError`
    * `BatchError.message`
    * `BatchError.problem`
-/

namespace DeviceHub

/- Errors of the batch engine. -/
inductive BatchError where
  | missingSpecificationToken
  | conflictingGroupCriteria
  | unknownOperation (id : String)
  | duplicateOperation (id : String)
  | operationInProgress (id : String)
  | notRunning (name : String)
  | management (e : StoreError)
  | serialization (detail : String)
  deriving DecidableEq, Inhabited, Repr

namespace BatchError

/- The name of the cause. -/
def cause : BatchError → String
  | missingSpecificationToken => "MissingSpecificationToken"
  | conflictingGroupCriteria => "ConflictingGroupCriteria"
  | unknownOperation _ => "UnknownOperation"
  | duplicateOperation _ => "DuplicateOperation"
  | operationInProgress _ => "OperationInProgress"
  | notRunning _ => "NotRunning"
  | management _ => "Management"
  | serialization _ => "Serialization"

/- The message. -/
def message : BatchError → String
  | missingSpecificationToken =>
      "Device specification token is required"
  | conflictingGroupCriteria =>
      "Only one of group token and groups-with-role may " ++
        "be specified"
  | unknownOperation id => s!"Unknown batch operation: {id}"
  | duplicateOperation id =>
      s!"Batch operation already exists: {id}"
  | operationInProgress id =>
      s!"Batch operation is still in progress: {id}"
  | notRunning name => s!"Batch engine '{name}' is not running"
  | management e => s!"Device resolution failed: {e.message}"
  | serialization detail => s!"Serialization error: {detail}"

/- The code. -/
def code : BatchError → ErrorCode
  | missingSpecificationToken =>
      .invalidDeviceSpecificationToken
  | conflictingGroupCriteria => .invalidDeviceGroupCriteria
  | unknownOperation _ => .unknownBatchOperation
  | duplicateOperation _ => .duplicateBatchOperation
  | operationInProgress _ => .batchOperationInProgress
  | notRunning _ => .componentNotRunning
  | management e => e.code
  | serialization _ => .internal

/- Only an engine at rest is less than an error. -/
def severity : BatchError → Severity
  | notRunning _ => .warning
  | _ => .error

/- The error as callers see it. -/
def problem
    (e : BatchError) : Problem :=
  ⟨e.cause, e.message, e.code, e.severity⟩

end BatchError

end DeviceHub
