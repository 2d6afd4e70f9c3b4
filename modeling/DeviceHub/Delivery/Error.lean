import DeviceHub.Codec.Error
import DeviceHub.Store.Error

/-
  What can go wrong on a command's way to a device.

  Key definitions include:
    * `DeliveryError`
    * `CommandError`
    * `CommandError.neverSent`
    * `CommandError.problem`
-/

namespace DeviceHub

------------------------------------------------------------
-- Transports
------------------------------------------------------------

/- Errors of a transport. -/
inductive DeliveryError where
  | channelClosed (detail : String)
  | rejected (detail : String)
  | other (detail : String)
  deriving DecidableEq, Inhabited, Repr

namespace DeliveryError

/- The name of the cause. -/
def cause : DeliveryError → String
  | channelClosed _ => "ChannelClosed"
  | rejected _ => "Rejected"
  | other _ => "Other"

/- The message. -/
def message : DeliveryError → String
  | channelClosed detail => s!"Delivery channel closed: {detail}"
  | rejected detail => s!"Delivery rejected: {detail}"
  | other detail => s!"Delivery error: {detail}"

/- The error as callers see it. -/
def problem
    (e : DeliveryError) : Problem :=
  .of e.cause e.message .deliveryFailed

end DeliveryError

------------------------------------------------------------
-- Commands
------------------------------------------------------------

/- Errors of the delivery of a command. -/
inductive CommandError where
  | notRunning (name : String)
  | unknownDevice (hardwareId : String)
  | unknownAssignment (detail : String)
  | extraction (detail : String)
  | encoding (e : CodecError)
  | delivery (e : DeliveryError)
  | management (e : StoreError)
  | noRoute (specificationToken : String)
  | unknownDestination (id : String)
  | duplicateDestination (id : String)
  deriving DecidableEq, Inhabited, Repr

namespace CommandError

/- Whether the command surely never reached the transport. -/
def neverSent : CommandError → Bool
  | delivery _ => false
  | _ => true

/- The name of the cause. -/
def cause : CommandError → String
  | notRunning _ => "NotRunning"
  | unknownDevice _ => "UnknownDevice"
  | unknownAssignment _ => "UnknownAssignment"
  | extraction _ => "Extraction"
  | encoding _ => "Encoding"
  | delivery _ => "Delivery"
  | management _ => "Management"
  | noRoute _ => "NoRoute"
  | unknownDestination _ => "UnknownDestination"
  | duplicateDestination _ => "DuplicateDestination"

/- The message. -/
def message : CommandError → String
  | notRunning name =>
      s!"Command destination '{name}' is not running"
  | unknownDevice hardwareId => s!"Unknown device: {hardwareId}"
  | unknownAssignment detail => s!"Unknown assignment: {detail}"
  | extraction detail =>
      s!"Parameter extraction failed: {detail}"
  | encoding e => s!"Encoding failed: {e.message}"
  | delivery e => s!"Delivery failed: {e.message}"
  | management e => s!"Device management error: {e.message}"
  | noRoute specificationToken =>
      "No command destination mapping for specification: " ++
        specificationToken
  | unknownDestination id =>
      s!"No destination found for destination id: {id}"
  | duplicateDestination id =>
      s!"Destination already registered: {id}"

/- The code. -/
def code : CommandError → ErrorCode
  | notRunning _ => .componentNotRunning
  | unknownDevice _ => .unknownDevice
  | unknownAssignment _ => .unknownAssignment
  | extraction _ => .configuration
  | encoding e => e.code
  | delivery _ => .deliveryFailed
  | management e => e.code
  | noRoute _ => .configuration
  | unknownDestination _ => .configuration
  | duplicateDestination _ => .configuration

/- The error as callers see it. -/
def problem
    (e : CommandError) : Problem :=
  .of e.cause e.message e.code

/- The fields that describe an error to callers. -/
def fields
    (e : CommandError) : List (String × Json) :=
  e.problem.fields ++ [("neverSent", .bool e.neverSent)]

end CommandError

end DeviceHub
