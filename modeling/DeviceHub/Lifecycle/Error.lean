import DeviceHub.Lifecycle.Status

/-
  Why a component did not change its status as asked.

  Key definitions include:
    * `LifecycleAction`
    * `LifecycleError`
    * `LifecycleError.message`
    * `LifecycleError.problem`
-/

namespace DeviceHub

/- What a component may be asked to do. -/
inductive LifecycleAction where
  | start
  | pause
  | stop
  | reset
  deriving DecidableEq, Inhabited, Repr

/- All actions. -/
def LifecycleAction.all : List LifecycleAction :=
  [start, pause, stop, reset]

/- The name of an action. -/
def LifecycleAction.name : LifecycleAction → String
  | start => "start"
  | pause => "pause"
  | stop => "stop"
  | reset => "reset"

/- Errors of lifecycle calls. -/
inductive LifecycleError where
  | invalidTransition
      (component : String)
      (status : Status)
      (action : LifecycleAction)
  | inErrorState (component : String)
  | configuration (detail : String)
  | failed (component reason : String)
  | childFailed (parent child reason : String)
  | other (detail : String)
  deriving DecidableEq, Inhabited, Repr

namespace LifecycleError

/- The name of the cause. -/
def cause : LifecycleError → String
  | invalidTransition .. => "InvalidTransition"
  | inErrorState _ => "InErrorState"
  | configuration _ => "Configuration"
  | failed .. => "Failed"
  | childFailed .. => "ChildFailed"
  | other _ => "Other"

/- The message. -/
def message : LifecycleError → String
  | invalidTransition component status action =>
      s!"Cannot {action.name} component '{component}' " ++
        s!"while {status.name}"
  | inErrorState component =>
      s!"Component '{component}' is in error state"
  | configuration detail => s!"Configuration error: {detail}"
  | failed component reason =>
      s!"Component '{component}' failed: {reason}"
  | childFailed parent child reason =>
      s!"Child '{child}' of '{parent}' failed: {reason}"
  | other detail => s!"Lifecycle error: {detail}"

/- The code. -/
def code : LifecycleError → ErrorCode
  | invalidTransition .. => .invalidLifecycleTransition
  | inErrorState _ => .componentInErrorState
  | configuration _ => .configuration
  | failed .. => .internal
  | childFailed .. => .internal
  | other _ => .internal

/- The error as callers see it. -/
def problem
    (e : LifecycleError) : Problem :=
  .of e.cause e.message e.code

end LifecycleError

end DeviceHub
