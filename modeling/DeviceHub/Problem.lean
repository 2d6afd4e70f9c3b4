import DeviceHub.Json.Reader

/-
  What callers learn of an error: its cause by name, a
  message, a code and how grave it is.

  Key definitions include:
    * `Severity`
    * `ErrorCode`
    * `ErrorCode.severity`
    * `Problem`
-/

namespace DeviceHub

------------------------------------------------------------
-- Severity
------------------------------------------------------------

/- How grave an error is. -/
inductive Severity where
  | info
  | warning
  | error
  deriving DecidableEq, Inhabited, Repr

namespace Severity

/- The name of a severity. -/
def name : Severity → String
  | info => "info"
  | warning => "warning"
  | error => "error"

/- All severities. -/
def all : List Severity :=
  [info, warning, error]

/- The JSON form. -/
def toJson
    (s : Severity) : Json :=
  .text s.name

/- Read the JSON form. -/
def reader : Json.Reader Severity :=
  .name (all.map fun s => (s.name, s))

end Severity

------------------------------------------------------------
-- Codes
------------------------------------------------------------

/- The code of an error. -/
inductive ErrorCode where
  | configuration
  | invalidLifecycleTransition
  | componentInErrorState
  | componentNotRunning
  | invalidDeviceSpecificationToken
  | invalidDeviceSlotPath
  | invalidDeviceGroupCriteria
  | unknownDevice
  | unknownAssignment
  | unknownCommand
  | missingCommandParameter
  | unknownCommandParameter
  | malformedPayload
  | encodingFailed
  | deliveryFailed
  | unknownBatchOperation
  | duplicateBatchOperation
  | batchOperationInProgress
  | unknownAssetModule
  | duplicateAssetModule
  | assetSourceFailed
  | internal
  deriving DecidableEq, Inhabited, Repr

namespace ErrorCode

/- All codes. -/
def all : List ErrorCode :=
  [configuration, invalidLifecycleTransition,
    componentInErrorState, componentNotRunning,
    invalidDeviceSpecificationToken, invalidDeviceSlotPath,
    invalidDeviceGroupCriteria, unknownDevice,
    unknownAssignment, unknownCommand,
    missingCommandParameter, unknownCommandParameter,
    malformedPayload, encodingFailed, deliveryFailed,
    unknownBatchOperation, duplicateBatchOperation,
    batchOperationInProgress, unknownAssetModule,
    duplicateAssetModule, assetSourceFailed, internal]

/- The name of a code. -/
def name : ErrorCode → String
  | configuration => "Configuration"
  | invalidLifecycleTransition => "InvalidLifecycleTransition"
  | componentInErrorState => "ComponentInErrorState"
  | componentNotRunning => "ComponentNotRunning"
  | invalidDeviceSpecificationToken =>
      "InvalidDeviceSpecificationToken"
  | invalidDeviceSlotPath => "InvalidDeviceSlotPath"
  | invalidDeviceGroupCriteria => "InvalidDeviceGroupCriteria"
  | unknownDevice => "UnknownDevice"
  | unknownAssignment => "UnknownAssignment"
  | unknownCommand => "UnknownCommand"
  | missingCommandParameter => "MissingCommandParameter"
  | unknownCommandParameter => "UnknownCommandParameter"
  | malformedPayload => "MalformedPayload"
  | encodingFailed => "EncodingFailed"
  | deliveryFailed => "DeliveryFailed"
  | unknownBatchOperation => "UnknownBatchOperation"
  | duplicateBatchOperation => "DuplicateBatchOperation"
  | batchOperationInProgress => "BatchOperationInProgress"
  | unknownAssetModule => "UnknownAssetModule"
  | duplicateAssetModule => "DuplicateAssetModule"
  | assetSourceFailed => "AssetSourceFailed"
  | internal => "Internal"

/- The name in JSON begins with a small letter. -/
def jsonName
    (c : ErrorCode) : String :=
  match c.name.toList with
  | first :: rest => String.ofList (first.toLower :: rest)
  | [] => ""

/- How grave errors with a code are, unless they say so. -/
def severity : ErrorCode → Severity
  | malformedPayload => .warning
  | encodingFailed => .warning
  | deliveryFailed => .warning
  | missingCommandParameter => .warning
  | unknownCommandParameter => .warning
  | componentNotRunning => .warning
  | _ => .error

/- The JSON form. -/
def toJson
    (c : ErrorCode) : Json :=
  .text c.jsonName

/- Read the JSON form. -/
def reader : Json.Reader ErrorCode :=
  .name (all.map fun c => (c.jsonName, c))

end ErrorCode

------------------------------------------------------------
-- Problems
------------------------------------------------------------

/- An error as callers see it. -/
structure Problem where
  cause : String
  message : String
  code : ErrorCode
  severity : Severity
  deriving DecidableEq, Inhabited, Repr

namespace Problem

/- A problem that is as grave as its code says. -/
def of
    (cause message : String)
    (code : ErrorCode) : Problem :=
  ⟨cause, message, code, code.severity⟩

/- The fields that describe a problem. -/
def fields
    (p : Problem) : List (String × Json) :=
  [("error", .text p.cause), ("message", .text p.message),
    ("code", .text p.code.name),
    ("level", p.severity.toJson)]

/- The JSON form. -/
def toJson
    (p : Problem) : Json :=
  .record p.fields

end Problem

end DeviceHub
