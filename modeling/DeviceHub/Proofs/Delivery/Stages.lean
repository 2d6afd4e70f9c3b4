import DeviceHub.Hub.Session
import DeviceHub.Proofs.Except
import Mathlib.Logic.ExistsUnique

/-
  The stages of a delivery at its destination.

  A delivery passes one stage after the other and fails at
  the first that fails.  Only then, if none has failed, is
  the message handed to the transport, and this once.

  Key definitions include:
    * `Destination.Stages`
    * `Destination.counting`
    * `Destination.handOver`
    * `Transport.OfferOf`, `Transport.ServeOf`

  Main statements:
    * `Destination.stages_iff`
    * `Destination.begin_of_error`
    * `Destination.begin_of_ok`
    * `Transport.offer_takes`
    * `Transport.serve?_takes`
-/

------------------------------------------------------------
-- Stages
------------------------------------------------------------

namespace DeviceHub

namespace Destination

/-
  What the stages of a delivery come to: the error of the
  first stage that fails, or the message.  Every way through
  names what was found at the stages before.
-/
inductive Stages
    (d : Destination)
    (status : Status)
    (b : Backend)
    (hardwareId : String)
    (i : CommandInvocation) :
    Except CommandError Outbound → Prop where
  | notRunning
      (hStatus : status ≠ .started) :
      Stages d status b hardwareId i
        (.error (.notRunning d.id))
  | deviceFault
      {e : StoreError}
      (hStatus : status = .started)
      (hDevice : b.getDevice hardwareId = .error e) :
      Stages d status b hardwareId i (.error (.management e))
  | unknownDevice
      (hStatus : status = .started)
      (hDevice : b.getDevice hardwareId = .ok none) :
      Stages d status b hardwareId i
        (.error (.unknownDevice hardwareId))
  | notAssigned
      {device : Device}
      (hStatus : status = .started)
      (hDevice : b.getDevice hardwareId = .ok (some device))
      (hToken : device.assignmentToken = none) :
      Stages d status b hardwareId i
        (.error (.unknownAssignment
          s!"Device '{hardwareId}' is not currently assigned"))
  | assignmentFault
      {device : Device}
      {token : String}
      {e : StoreError}
      (hStatus : status = .started)
      (hDevice : b.getDevice hardwareId = .ok (some device))
      (hToken : device.assignmentToken = some token)
      (hAssignment : b.getAssignment token = .error e) :
      Stages d status b hardwareId i (.error (.management e))
  | unknownAssignment
      {device : Device}
      {token : String}
      (hStatus : status = .started)
      (hDevice : b.getDevice hardwareId = .ok (some device))
      (hToken : device.assignmentToken = some token)
      (hAssignment : b.getAssignment token = .ok none) :
      Stages d status b hardwareId i
        (.error (.unknownAssignment token))
  | commandFault
      {device : Device}
      {token : String}
      {a : DeviceAssignment}
      {e : StoreError}
      (hStatus : status = .started)
      (hDevice : b.getDevice hardwareId = .ok (some device))
      (hToken : device.assignmentToken = some token)
      (hAssignment : b.getAssignment token = .ok (some a))
      (hCommand : b.getCommand i.commandToken = .error e) :
      Stages d status b hardwareId i (.error (.management e))
  | unknownCommand
      {device : Device}
      {token : String}
      {a : DeviceAssignment}
      (hStatus : status = .started)
      (hDevice : b.getDevice hardwareId = .ok (some device))
      (hToken : device.assignmentToken = some token)
      (hAssignment : b.getAssignment token = .ok (some a))
      (hCommand : b.getCommand i.commandToken = .ok none) :
      Stages d status b hardwareId i
        (.error (.encoding (.unknownCommand i.commandToken)))
  | extraction
      {device : Device}
      {token : String}
      {a : DeviceAssignment}
      {command : CommandDefinition}
      {detail : String}
      (hStatus : status = .started)
      (hDevice : b.getDevice hardwareId = .ok (some device))
      (hToken : device.assignmentToken = some token)
      (hAssignment : b.getAssignment token = .ok (some a))
      (hCommand : b.getCommand i.commandToken =
        .ok (some command))
      (hTopics : d.topicsFor device.hardwareId =
        .error (.extraction detail)) :
      Stages d status b hardwareId i
        (.error (.extraction detail))
  | encoding
      {device : Device}
      {token : String}
      {a : DeviceAssignment}
      {command : CommandDefinition}
      {topics : Option TopicParams}
      {e : CodecError}
      (hStatus : status = .started)
      (hDevice : b.getDevice hardwareId = .ok (some device))
      (hToken : device.assignmentToken = some token)
      (hAssignment : b.getAssignment token = .ok (some a))
      (hCommand : b.getCommand i.commandToken =
        .ok (some command))
      (hTopics : d.topicsFor device.hardwareId = .ok topics)
      (hEncoded : d.encoding.encode
        ⟨command, i, hardwareId, token⟩ = .error e) :
      Stages d status b hardwareId i (.error (.encoding e))
  | ready
      {device : Device}
      {token : String}
      {a : DeviceAssignment}
      {command : CommandDefinition}
      {topics : Option TopicParams}
      {encoded : Encoded}
      (hStatus : status = .started)
      (hDevice : b.getDevice hardwareId = .ok (some device))
      (hToken : device.assignmentToken = some token)
      (hAssignment : b.getAssignment token = .ok (some a))
      (hCommand : b.getCommand i.commandToken =
        .ok (some command))
      (hTopics : d.topicsFor device.hardwareId = .ok topics)
      (hEncoded : d.encoding.encode
        ⟨command, i, hardwareId, token⟩ = .ok encoded) :
      Stages d status b hardwareId i (.ok ⟨encoded, topics⟩)

variable {d : Destination}
variable {status : Status}
variable {b : Backend}
variable {hardwareId : String}
variable {i : CommandInvocation}

/- Topics that cannot be had are an error of their own. -/
theorem topicsFor_error
    {e : CommandError}
    (hTopics : d.topicsFor hardwareId = .error e) :
    ∃ detail, e = .extraction detail := by
  unfold topicsFor at hTopics
  cases hTemplates : d.templates with
  | none => simp [hTemplates] at hTopics
  | some t =>
      simp only [hTemplates, TopicTemplates.topicsFor]
        at hTopics
      split at hTopics
      · cases hTopics
        exact ⟨_, rfl⟩
      · cases hTopics

/- The topics and the encoding are the last stages. -/
theorem stages_finish
    {device : Device}
    {token : String}
    {a : DeviceAssignment}
    {command : CommandDefinition}
    (hDevice : b.getDevice hardwareId = .ok (some device))
    (hToken : device.assignmentToken = some token)
    (hAssignment : b.getAssignment token = .ok (some a))
    (hCommand : b.getCommand i.commandToken =
      .ok (some command)) :
    Stages d .started b hardwareId i
      (d.prepare b hardwareId i) := by
  have hResolved : resolve b hardwareId i =
      .ok (device, ⟨command, i, hardwareId, token⟩) := by
    simp [resolve, findDevice, hDevice, findAssignment,
      hToken, hAssignment, findCommand, hCommand]
  unfold prepare
  rw [hResolved, ok_bind]
  dsimp only
  cases hTopics : d.topicsFor device.hardwareId with
  | error e =>
      rcases topicsFor_error hTopics with ⟨detail, rfl⟩
      exact .extraction rfl hDevice hToken hAssignment
        hCommand hTopics
  | ok topics =>
      rw [ok_bind]
      cases hEncoded : d.encoding.encode
          ⟨command, i, hardwareId, token⟩ with
      | error e =>
          exact .encoding rfl hDevice hToken hAssignment
            hCommand hTopics hEncoded
      | ok encoded =>
          exact .ready rfl hDevice hToken hAssignment
            hCommand hTopics hEncoded

/- A started destination prepares what the stages come to. -/
theorem stages_prepare
    (d : Destination)
    (b : Backend)
    (hardwareId : String)
    (i : CommandInvocation) :
    Stages d .started b hardwareId i
      (d.prepare b hardwareId i) := by
  cases hDevice : b.getDevice hardwareId with
  | error e =>
      simp only [prepare, resolve, findDevice, hDevice,
        error_bind]
      exact .deviceFault rfl hDevice
  | ok found =>
    cases found with
    | none =>
        simp only [prepare, resolve, findDevice, hDevice,
          error_bind]
        exact .unknownDevice rfl hDevice
    | some device =>
      cases hToken : device.assignmentToken with
      | none =>
          simp only [prepare, resolve, findDevice, hDevice,
            findAssignment, hToken, ok_bind, error_bind]
          exact .notAssigned rfl hDevice hToken
      | some token =>
        cases hAssignment : b.getAssignment token with
        | error e =>
            simp only [prepare, resolve, findDevice, hDevice,
              findAssignment, hToken, hAssignment, ok_bind,
              error_bind]
            exact .assignmentFault rfl hDevice hToken
              hAssignment
        | ok known =>
          cases known with
          | none =>
              simp only [prepare, resolve, findDevice,
                hDevice, findAssignment, hToken, hAssignment,
                ok_bind, error_bind]
              exact .unknownAssignment rfl hDevice hToken
                hAssignment
          | some a =>
            cases hCommand : b.getCommand i.commandToken with
            | error e =>
                simp only [prepare, resolve, findDevice,
                  hDevice, findAssignment, hToken,
                  hAssignment, findCommand, hCommand, ok_bind,
                  error_bind]
                exact .commandFault rfl hDevice hToken
                  hAssignment hCommand
            | ok defined =>
              cases defined with
              | none =>
                  simp only [prepare, resolve, findDevice,
                    hDevice, findAssignment, hToken,
                    hAssignment, findCommand, hCommand,
                    ok_bind, error_bind]
                  exact .unknownCommand rfl hDevice hToken
                    hAssignment hCommand
              | some command =>
                  exact stages_finish hDevice hToken
                    hAssignment hCommand

/- The stages lead to one thing only. -/
theorem Stages.prepare_eq
    {r : Except CommandError Outbound}
    (hStages : Stages d .started b hardwareId i r) :
    d.prepare b hardwareId i = r := by
  cases hStages <;>
    simp_all [prepare, resolve, findDevice, findAssignment,
      findCommand]

/- What the stages come to, in every status. -/
theorem stages_iff
    {r : Except CommandError Outbound} :
    Stages d status b hardwareId i r ↔
      r = if status = .started then
        d.prepare b hardwareId i
      else
        .error (.notRunning d.id) := by
  by_cases hStatus : status = .started
  · subst hStatus
    rw [if_pos rfl]
    constructor
    · intro hStages
      exact hStages.prepare_eq.symm
    · rintro rfl
      exact stages_prepare d b hardwareId i
  · rw [if_neg hStatus]
    constructor
    · intro hStages
      cases hStages <;> first | rfl | contradiction
    · rintro rfl
      exact .notRunning hStatus

/- There is a way through the stages, and no other. -/
theorem existsUnique_stages
    (d : Destination)
    (status : Status)
    (b : Backend)
    (hardwareId : String)
    (i : CommandInvocation) :
    ∃! r, Stages d status b hardwareId i r := by
  refine ⟨_, stages_iff.2 rfl, ?_⟩
  intro r hStages
  exact stages_iff.1 hStages

/- A message comes of a started destination only. -/
theorem Stages.started
    {m : Outbound}
    (hStages : Stages d status b hardwareId i (.ok m)) :
    status = .started ∧ d.prepare b hardwareId i = .ok m := by
  cases hStages with
  | ready hStatus hDevice hToken hAssignment hCommand hTopics
      hEncoded =>
      subst hStatus
      exact ⟨rfl, Stages.prepare_eq (.ready rfl hDevice hToken
        hAssignment hCommand hTopics hEncoded)⟩

/- No stage has an error of the transport. -/
theorem Stages.neverSent
    {e : CommandError}
    (hStages : Stages d status b hardwareId i (.error e)) :
    e.neverSent = true := by
  cases hStages <;> rfl

------------------------------------------------------------
-- From the Stages to the Answer
------------------------------------------------------------

/- A destination that counts an error of its stages. -/
def counting
    (d : Destination)
    (e : CommandError) : Destination :=
  if e.isNotRunning then d
  else { d with metrics :=
    { d.metrics with failed := d.metrics.failed + 1 } }

/- A delivery that is over leaves a destination its id. -/
theorem id_conclude
    (d : Destination)
    (receipt : DeliveryReceipt)
    (result : Except CommandError Unit) :
    (d.conclude receipt result).2.id = d.id := by
  cases result <;> rfl

@[simp] theorem id_counting
    (d : Destination)
    (e : CommandError) :
    (d.counting e).id = d.id := by
  unfold counting
  split <;> rfl

@[simp] theorem encoding_counting
    (d : Destination)
    (e : CommandError) :
    (d.counting e).encoding = d.encoding := by
  unfold counting
  split <;> rfl

@[simp] theorem templates_counting
    (d : Destination)
    (e : CommandError) :
    (d.counting e).templates = d.templates := by
  unfold counting
  split <;> rfl

@[simp] theorem transport_counting
    (d : Destination)
    (e : CommandError) :
    (d.counting e).transport = d.transport := by
  unfold counting
  split <;> rfl

/-
  How a delivery goes on after the one offer to the
  transport.
-/
def handOver
    (d : Destination)
    (receipt : DeliveryReceipt) :
    Offer × Transport → Progress × Destination
  | (.waits, t) =>
      (.waiting receipt, { d with transport := t })
  | (.done (.ok _), t) =>
      (.finished (.ok receipt),
        { d with
          transport := t
          metrics := { d.metrics with
            delivered := d.metrics.delivered + 1 } })
  | (.done (.error e), t) =>
      (.finished (.error (.delivery e)),
        { d with
          transport := t
          metrics := { d.metrics with
            failed := d.metrics.failed + 1 } })

/- An error of a stage is the answer. -/
theorem begin_of_error
    {e : CommandError}
    (hStages : Stages d status b hardwareId i (.error e))
    (ticket : Nat) :
    d.begin status b ticket hardwareId i =
      (.finished (.error e), d.counting e) := by
  by_cases hStatus : status = .started
  · subst hStatus
    have hPrepared := hStages.prepare_eq
    have hRuns : e.isNotRunning = false := by
      cases hStages <;> first | rfl | contradiction
    simp [begin, hPrepared, conclude, counting, hRuns]
  · have hSame := stages_iff.1 hStages
    rw [if_neg hStatus] at hSame
    cases hSame
    simp [begin, hStatus, counting, CommandError.isNotRunning]

/- A message is offered to the transport. -/
theorem begin_of_ok
    {m : Outbound}
    (hStages : Stages d status b hardwareId i (.ok m))
    (ticket : Nat) :
    d.begin status b ticket hardwareId i =
      d.handOver (d.receipt b.now hardwareId i)
        (d.transport.offer ticket m) := by
  rcases hStages.started with ⟨rfl, hPrepared⟩
  simp only [begin, if_true, hPrepared]
  rcases d.transport.offer ticket m with ⟨_ | _, t⟩
  · rename_i result
    cases result <;> rfl
  · rfl

/- A recorder has no part in the stages. -/
theorem stages_recording
    {r : Except CommandError Outbound}
    (hStages : Stages d status b hardwareId i r) :
    Stages d.recording status b hardwareId i r := by
  have hSame := stages_iff.1 hStages
  exact stages_iff.2 hSame

/- Where a stage fails, nothing is handed over. -/
theorem handsOver_of_error
    {e : CommandError}
    (hStages : Stages d status b hardwareId i (.error e)) :
    d.handsOver status b hardwareId i = [] := by
  unfold handsOver
  rw [begin_of_error (stages_recording hStages), counting]
  split <;> rfl

/- Where no stage fails, the message is, and this once. -/
theorem handsOver_of_ok
    {m : Outbound}
    (hStages : Stages d status b hardwareId i (.ok m)) :
    d.handsOver status b hardwareId i = [m] := by
  unfold handsOver
  rw [begin_of_ok (stages_recording hStages)]
  rfl

end Destination

end DeviceHub

------------------------------------------------------------
-- Transports
------------------------------------------------------------

namespace DeviceHub

namespace Transport

/-
  A transport `t'` that has taken a message besides all that
  `t` held.  Where messages are drained none is held.
-/
structure Takes
    (t t' : Transport)
    (m : Outbound) : Prop where
  queue : t.mode ≠ .drained → t'.queue = t.queue ++ [m]
  drained : t.mode = .drained → t'.queue = t.queue

/- What can become of a message that is offered. -/
inductive OfferOf
    (t : Transport)
    (ticket : Nat)
    (m : Outbound) : Offer × Transport → Prop where
  | taken
      {t' : Transport}
      (hTakes : t.Takes t' m)
      (hWaiting : t'.waiting = t.waiting) :
      OfferOf t ticket m (.done (.ok ()), t')
  | refused
      {t' : Transport}
      (e : DeliveryError)
      (hQueue : t'.queue = t.queue)
      (hWaiting : t'.waiting = t.waiting) :
      OfferOf t ticket m (.done (.error e), t')
  | held
      {t' : Transport}
      (hQueue : t'.queue = t.queue)
      (hWaiting : t'.waiting = t.waiting ++ [(ticket, m)]) :
      OfferOf t ticket m (.waits, t')

theorem offer_takes
    (t : Transport)
    (ticket : Nat)
    (m : Outbound) :
    OfferOf t ticket m (t.offer ticket m) := by
  unfold offer
  cases hMode : t.mode with
  | channel capacity isOpen =>
      have hTakes : t.Takes (t.push m) m :=
        ⟨fun _ => rfl, fun h => by simp [hMode] at h⟩
      cases isOpen with
      | false => exact .refused closed rfl rfl
      | true =>
          simp only [Bool.not_true, Bool.false_eq_true,
            if_false]
          split
          · exact .taken hTakes rfl
          · exact .held rfl rfl
  | drained =>
      exact .taken ⟨fun h => absurd hMode h, fun _ => rfl⟩ rfl
  | scripted script releases =>
      have hTakes : ∀ mode, t.Takes
          ({ t with mode := mode }.push m) m :=
        fun _ => ⟨fun _ => rfl, fun h => by simp [hMode] at h⟩
      dsimp only
      cases hReplies : script.replies with
      | nil => exact .taken (hTakes t.mode) rfl
      | cons reply rest =>
          cases reply with
          | accept => exact .taken (hTakes _) rfl
          | refuse e => exact .refused e rfl rfl
          | hold =>
              dsimp only
              split
              · exact .taken (hTakes _) rfl
              · exact .held rfl rfl

/- What can become of the message that waits longest. -/
inductive ServeOf
    (t : Transport)
    (ticket : Nat)
    (m : Outbound) :
    Except DeliveryError Unit → Transport → Prop where
  | taken
      {t' : Transport}
      (hTakes : t.Takes t' m) :
      ServeOf t ticket m (.ok ()) t'
  | refused
      {t' : Transport}
      (e : DeliveryError)
      (hQueue : t'.queue = t.queue) :
      ServeOf t ticket m (.error e) t'

theorem serve?_takes
    {t t' : Transport}
    {ticket : Nat}
    {result : Except DeliveryError Unit}
    (hServe : t.serve? = some (ticket, result, t')) :
    ∃ m, t.waiting = (ticket, m) :: t'.waiting ∧
      ServeOf t ticket m result t' := by
  unfold serve? at hServe
  cases hWaiting : t.waiting with
  | nil => simp [hWaiting] at hServe
  | cons first rest =>
      rcases first with ⟨n, m⟩
      simp only [hWaiting] at hServe
      cases hMode : t.mode with
      | channel capacity isOpen =>
          simp only [hMode] at hServe
          cases isOpen with
          | false =>
              simp only [Bool.not_false, if_true] at hServe
              cases hServe
              exact ⟨m, rfl, .refused closed rfl⟩
          | true =>
              simp only [Bool.not_true, Bool.false_eq_true,
                if_false] at hServe
              split at hServe
              · cases hServe
                exact ⟨m, rfl, .taken ⟨fun _ => rfl,
                  fun h => by simp [hMode] at h⟩⟩
              · cases hServe
      | drained =>
          simp only [hMode] at hServe
          cases hServe
          exact ⟨m, rfl, .taken
            ⟨fun h => absurd hMode h, fun _ => rfl⟩⟩
      | scripted script releases =>
          cases releases with
          | zero => simp [hMode] at hServe
          | succ n =>
              simp only [hMode] at hServe
              cases hServe
              exact ⟨m, rfl, .taken ⟨fun _ => rfl,
                fun h => by simp [hMode] at h⟩⟩

/- What is done from outside serves no message. -/
@[simp] theorem waiting_after
    (t : Transport)
    (event : TransportEvent) :
    (t.after event).waiting = t.waiting := by
  cases event with
  | take limit => rfl
  | release =>
      simp only [after, release]
      split <;> rfl
  | closeReceiver =>
      simp only [after, closeReceiver]
      split <;> rfl
  | rewrite script =>
      simp only [after, withScript]
      split <;> rfl

end Transport

end DeviceHub
