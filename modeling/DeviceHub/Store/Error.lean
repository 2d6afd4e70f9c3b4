import DeviceHub.Problem

/-
  What can go wrong in the storage of devices.

  Key definitions include:
    * `StoreError`
    * `StoreError.message`
    * `StoreError.problem`
-/

namespace DeviceHub

/- Errors of the storage. -/
inductive StoreError where
  | unknownDevice (hardwareId : String)
  | unknownAssignment (token : String)
  | notAssigned (hardwareId : String)
  | unknownCommand (token : String)
  | storage (detail : String)
  | other (detail : String)
  deriving DecidableEq, Inhabited, Repr

namespace StoreError

/- The name of the cause. -/
def cause : StoreError → String
  | unknownDevice _ => "UnknownDevice"
  | unknownAssignment _ => "UnknownAssignment"
  | notAssigned _ => "NotAssigned"
  | unknownCommand _ => "UnknownCommand"
  | storage _ => "Storage"
  | other _ => "Other"

/- The message. -/
def message : StoreError → String
  | unknownDevice hardwareId => s!"Unknown device: {hardwareId}"
  | unknownAssignment token => s!"Unknown assignment: {token}"
  | notAssigned hardwareId =>
      s!"Device '{hardwareId}' is not currently assigned"
  | unknownCommand token => s!"Unknown command: {token}"
  | storage detail => s!"Storage error: {detail}"
  | other detail => s!"Device management error: {detail}"

/- The code. -/
def code : StoreError → ErrorCode
  | unknownDevice _ => .unknownDevice
  | unknownAssignment _ => .unknownAssignment
  | notAssigned _ => .unknownAssignment
  | unknownCommand _ => .unknownCommand
  | storage _ => .internal
  | other _ => .internal

/- The error as callers see it. -/
def problem
    (e : StoreError) : Problem :=
  .of e.cause e.message e.code

end StoreError

end DeviceHub
