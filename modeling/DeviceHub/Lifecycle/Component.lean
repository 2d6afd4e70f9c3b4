import DeviceHub.Lifecycle.Error
import DeviceHub.Text.Quoted

/-
  A supervised component by itself: who it is, where it
  stands, and how it came there.

  The history keeps the newest changes only, up to a limit
  that belongs to the component.

  Key definitions include:
    * `Component`
    * `Component.new`
    * `Component.record`
    * `Component.fail`
    * `Component.rejection`
-/

namespace DeviceHub

/-
  A component under supervision.  The label says which part
  of the system it is.
-/
structure Component (κ : Type) where
  label : κ
  name : String
  kind : ComponentKind
  policy : ChildPolicy
  canPause : Bool
  historyLimit : Nat
  status : Status
  lastError : Option String
  history : List StatusChange
  changeCount : Nat
  deriving Inhabited

namespace Component

variable {κ : Type}

/- The number of changes a component remembers. -/
def defaultHistoryLimit : Nat := 64

/- A component that has never been started. -/
def new
    (label : κ)
    (name : String)
    (kind : ComponentKind) : Component κ :=
  { label := label
    name := name
    kind := kind
    policy := .continue
    canPause := false
    historyLimit := defaultHistoryLimit
    status := .stopped
    lastError := none
    history := []
    changeCount := 0 }

/- The newest items of a list, at most `limit` of them. -/
def newest
    {α : Type}
    (limit : Nat)
    (items : List α) : List α :=
  items.drop (items.length - limit)

/- Change the status and remember why. -/
def record
    (c : Component κ)
    (status : Status)
    (reason : String) : Component κ :=
  { c with
    status := status
    history := newest c.historyLimit
      (c.history ++ [⟨c.status, status, reason⟩])
    changeCount := c.changeCount + 1 }

/- Enter the error status. -/
def fail
    (c : Component κ)
    (reason : String) : Component κ :=
  { c with lastError := some reason }.record .error reason

/- Leave the error status. -/
def clear
    (c : Component κ) : Component κ :=
  { c with lastError := none }.record .stopped "reset"

/- Why an action is refused in the current status. -/
def rejection
    (c : Component κ)
    (action : LifecycleAction) : LifecycleError :=
  if c.status = .error then
    .inErrorState c.name
  else
    .invalidTransition c.name c.status action

/- One line of a rendered tree. -/
def line
    (c : Component κ)
    (depth : Nat) : String :=
  let indent :=
    String.ofList (List.replicate (2 * depth) ' ')
  let error :=
    match c.status, c.lastError with
    | .error, some e => s!" ({e})"
    | _, _ => ""
  s!"{indent}+ {c.name} {c.status.name}{error}\n"

/- A description for diagnosis. -/
def describe
    (c : Component κ)
    (id : String)
    (children : Nat) : String :=
  let kind :=
    match c.kind with
    | .other name => s!"Other({Text.quoted name})"
    | kind => kind.word
  "LifecycleComponent \x7b id: " ++ id ++ ", name: " ++
    Text.quoted c.name ++ ", component_type: " ++ kind ++
    ", status: " ++ c.status.name ++ ", children: " ++
    toString children ++ " \x7d"

end Component

end DeviceHub
