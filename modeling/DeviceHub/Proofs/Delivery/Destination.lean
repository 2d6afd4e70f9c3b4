import DeviceHub.Delivery.Destination
import DeviceHub.Proofs.Except
import DeviceHub.Proofs.Store.Backend

/-
  Destinations over a storage without faults, and channels.

  Preparing a message is a matter of what the storage knows
  and of the device's topics; the transport has no part in
  it.  A channel on which no one waits then takes the
  message at once, or refuses it, or is full.

  Key definitions include:
    * `Transport.isOpen`
    * `Transport.isFull`
    * `Destination.setup`

  Main statements:
    * `Transport.offer_cases`
    * `Destination.resolve_ok_iff`
    * `Destination.prepare_ok_iff`
-/

------------------------------------------------------------
-- Channels
------------------------------------------------------------

namespace DeviceHub

namespace Transport

/- Whether a transport takes messages at all. -/
def isOpen
    (t : Transport) : Bool :=
  match t.mode with
  | .channel _ isOpen => isOpen
  | _ => true

/- Whether a transport is an open channel without room. -/
def isFull
    (t : Transport) : Bool :=
  match t.mode with
  | .channel capacity isOpen =>
      isOpen && decide (capacity ≤ t.queue.length)
  | _ => false

/- A full channel serves no message. -/
theorem serve?_of_isFull
    {t : Transport}
    (hFull : t.isFull = true) :
    t.serve? = none := by
  unfold isFull at hFull
  unfold serve?
  cases t.waiting with
  | nil => rfl
  | cons first rest =>
      cases hMode : t.mode with
      | channel capacity isOpen =>
          simp only [hMode, Bool.and_eq_true,
            decide_eq_true_eq] at hFull
          have hRoom : ¬ t.queue.length < capacity := by
            omega
          simp [hFull.1, hRoom]
      | drained => simp [hMode] at hFull
      | scripted script releases => simp [hMode] at hFull

/-
  A channel on which no one waits refuses a message if it is
  closed, takes it if there is room, and lets it wait if it
  is full.
-/
theorem offer_cases
    {t : Transport}
    {capacity : Nat}
    {isOpen : Bool}
    (hMode : t.mode = .channel capacity isOpen)
    (hWaiting : t.waiting = [])
    (ticket : Nat)
    (m : Outbound) :
    (t.isOpen = false ∧
      t.offer ticket m = (.done (.error closed), t)) ∨
    t.isOpen = true ∧
      (t.offer ticket m = (.done (.ok ()), t.push m) ∨
        t.offer ticket m = (.waits, t.enqueue ticket m) ∧
          (t.enqueue ticket m).isFull = true) := by
  unfold Transport.isOpen
  rw [hMode]
  cases isOpen with
  | false => exact .inl ⟨rfl, by simp [offer, hMode]⟩
  | true =>
      refine .inr ⟨rfl, ?_⟩
      by_cases hRoom : t.queue.length < capacity
      · left
        simp [offer, hMode, hWaiting, hRoom]
      · right
        simp [offer, hMode, hRoom, isFull, enqueue,
          Nat.le_of_not_lt hRoom]

end Transport

end DeviceHub

------------------------------------------------------------
-- Preparing a Message
------------------------------------------------------------

namespace DeviceHub

/- Encoding succeeds if the parameters are accepted. -/
theorem Encoding.encode_ok_iff
    (c : Encoding)
    (e : CommandExecution) :
    (∃ m, c.encode e = .ok m) ↔
      ∃ p, e.parameters = .ok p := by
  cases c <;> cases h : e.parameters <;>
    simp [encode, CommandExecution.toJsonBytes,
      CommandExecution.toJsonText,
      CommandExecution.toFrameBytes,
      CommandExecution.toFrame, CommandExecution.toLine, h,
      Except.map]

namespace Destination

/- All of a destination that deliveries leave as it is. -/
def setup
    (d : Destination) :
    String × Encoding × Option TopicTemplates ×
      Transport.Mode :=
  (d.id, d.encoding, d.templates, d.transport.mode)

variable {b : Backend}

/- In a storage without faults, known devices are found. -/
theorem findDevice_ok_iff
    (hFaults : b.faults = [])
    {hardwareId : String}
    {device : Device} :
    findDevice b hardwareId = .ok device ↔
      b.store.devices.get? hardwareId = some device := by
  unfold findDevice Backend.getDevice
  rw [Backend.guarded_eq hFaults]
  cases b.store.devices.get? hardwareId <;> simp

/- So are the assignments that devices point to. -/
theorem findAssignment_ok_iff
    (hFaults : b.faults = [])
    {device : Device}
    {hardwareId assignment : String}
    {a : DeviceAssignment} :
    findAssignment b device hardwareId =
        .ok (assignment, a) ↔
      device.assignmentToken = some assignment ∧
        b.store.assignments.get? assignment = some a := by
  unfold findAssignment
  cases hToken : device.assignmentToken with
  | none => simp
  | some token =>
      simp only [Backend.getAssignment,
        Backend.guarded_eq hFaults]
      cases hKnown : b.store.assignments.get? token with
      | none =>
          simp only [reduceCtorEq, Option.some.injEq,
            false_iff, not_and]
          rintro rfl
          simp [hKnown]
      | some found =>
          simp only [Except.ok.injEq, Prod.mk.injEq,
            Option.some.injEq]
          constructor
          · rintro ⟨rfl, rfl⟩
            exact ⟨rfl, hKnown⟩
          · rintro ⟨rfl, hSame⟩
            rw [hKnown, Option.some.injEq] at hSame
            exact ⟨rfl, hSame⟩

/- And so are the commands that are defined. -/
theorem findCommand_ok_iff
    (hFaults : b.faults = [])
    {token : String}
    {command : CommandDefinition} :
    findCommand b token = .ok command ↔
      b.store.commands.get? token = some command := by
  unfold findCommand Backend.getCommand
  rw [Backend.guarded_eq hFaults]
  cases b.store.commands.get? token <;> simp

/- All of a command is resolved if all of it is known. -/
theorem resolve_ok_iff
    (hFaults : b.faults = [])
    {hardwareId : String}
    {i : CommandInvocation}
    {device : Device}
    {e : CommandExecution} :
    resolve b hardwareId i = .ok (device, e) ↔
      ∃ assignment command,
        b.store.devices.get? hardwareId = some device ∧
        device.assignmentToken = some assignment ∧
        (b.store.assignments.get? assignment).isSome = true ∧
        b.store.commands.get? i.commandToken =
          some command ∧
        e = ⟨command, i, hardwareId, assignment⟩ := by
  simp only [resolve, bind_eq_ok_iff, Prod.exists,
    findDevice_ok_iff hFaults, findCommand_ok_iff hFaults,
    findAssignment_ok_iff hFaults, pure_eq_ok,
    Except.ok.injEq, Prod.mk.injEq,
    Option.isSome_iff_exists]
  constructor
  · rintro ⟨_, hDevice, assignment, a, ⟨hToken, hKnown⟩,
      command, hCommand, rfl, rfl⟩
    exact ⟨assignment, command, hDevice, hToken,
      ⟨a, hKnown⟩, hCommand, rfl⟩
  · rintro ⟨assignment, command, hDevice, hToken,
      ⟨a, hKnown⟩, hCommand, rfl⟩
    exact ⟨device, hDevice, assignment, a, ⟨hToken, hKnown⟩,
      command, hCommand, rfl, rfl⟩

/-
  A message can be prepared if all it takes is known, the
  device has topics and the values are accepted.
-/
theorem prepare_ok_iff
    (d : Destination)
    (hFaults : b.faults = [])
    (hardwareId : String)
    (i : CommandInvocation) :
    (∃ m, d.prepare b hardwareId i = .ok m) ↔
      ∃ device assignment command,
        b.store.devices.get? hardwareId = some device ∧
        device.assignmentToken = some assignment ∧
        (b.store.assignments.get? assignment).isSome = true ∧
        b.store.commands.get? i.commandToken =
          some command ∧
        (∃ p, command.checkParameters i.parameterValues =
          .ok p) ∧
        ∃ topics, d.topicsFor device.hardwareId =
          .ok topics := by
  have hEncode : ∀ command assignment,
      (∃ m, d.encoding.encode
        ⟨command, i, hardwareId, assignment⟩ = .ok m) ↔
        ∃ p, command.checkParameters i.parameterValues =
          .ok p :=
    fun command assignment => d.encoding.encode_ok_iff
      ⟨command, i, hardwareId, assignment⟩
  simp only [prepare, bind_eq_ok_iff, Prod.exists,
    resolve_ok_iff hFaults, mapError_eq_ok_iff, pure_eq_ok,
    Except.ok.injEq]
  constructor
  · rintro ⟨_, device, e, ⟨assignment, command, hDevice,
      hToken, hAssignment, hCommand, rfl⟩, topics, hTopics,
      m, hEncoded, -⟩
    exact ⟨device, assignment, command, hDevice, hToken,
      hAssignment, hCommand,
      (hEncode command assignment).1 ⟨m, hEncoded⟩, topics,
      hTopics⟩
  · rintro ⟨device, assignment, command, hDevice, hToken,
      hAssignment, hCommand, hValues, topics, hTopics⟩
    rcases (hEncode command assignment).2 hValues with
      ⟨m, hEncoded⟩
    exact ⟨_, device, _, ⟨assignment, command, hDevice,
      hToken, hAssignment, hCommand, rfl⟩, topics, hTopics,
      m, hEncoded, rfl⟩

end Destination

end DeviceHub
