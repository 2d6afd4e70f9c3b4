import DeviceHub.Proofs.Hub.Session
import Mathlib.Algebra.Group.Nat.Defs

/-
  What the answers of deliveries tell.

  An error says that a command was never sent exactly if no
  transport was handed its message, and a destination counts
  every answer of its own once, but for those it gives while
  it is not started.

  Key definitions include:
    * `DestinationMetrics.after`

  Main statements:
    * `DeliverySession.metricsAt_run`
    * `DeliverySession.neverSent_exact`
-/

------------------------------------------------------------
-- Counts
------------------------------------------------------------

namespace DeviceHub

namespace DestinationMetrics

/- The counts of a destination after some more notes. -/
def after
    (c : DestinationMetrics)
    (place : Nat)
    (notes : List DeliveryNote) : DestinationMetrics :=
  ⟨c.delivered + notes.countP (·.delivers place),
    c.failed + notes.countP (·.fails place)⟩

@[simp] theorem after_nil
    (c : DestinationMetrics)
    (place : Nat) :
    c.after place [] = c := rfl

theorem after_append
    (c : DestinationMetrics)
    (place : Nat)
    (first second : List DeliveryNote) :
    c.after place (first ++ second) =
      (c.after place first).after place second := by
  simp [after, Nat.add_assoc]

/- A note that is no answer for a destination. -/
theorem after_of_other
    (c : DestinationMetrics)
    {place : Nat}
    {note : DeliveryNote}
    (hDelivers : note.delivers place = false)
    (hFails : note.fails place = false) :
    c.after place [note] = c := by
  simp [after, hDelivers, hFails]

end DestinationMetrics

end DeviceHub

------------------------------------------------------------
-- Counting Answers
------------------------------------------------------------

namespace DeviceHub

namespace DeliverySession

section Counting

variable {s s' : DeliverySession}
variable {place : Nat}
variable {d d' : Destination}

/- A change at one place shows in the counts there. -/
theorem Puts.metricsAt_eq
    (hPuts : Puts s s' place d d')
    (j : Nat) :
    s'.metricsAt j =
      if j = place then d'.metrics else s.metricsAt j := by
  unfold metricsAt
  rw [hPuts.after]
  split <;> rfl

/- The counts go up as a note says. -/
theorem Puts.metricsAt_after
    (hPuts : Puts s s' place d d')
    {note : DeliveryNote}
    (hHere : d'.metrics = d.metrics.after place [note])
    (hElsewhere : ∀ j, j ≠ place →
      note.delivers j = false ∧ note.fails j = false)
    (j : Nat) :
    s'.metricsAt j = (s.metricsAt j).after j [note] := by
  rw [hPuts.metricsAt_eq]
  split
  · rename_i hj
    subst hj
    simp [hHere, metricsAt, hPuts.before]
  · rename_i hj
    rcases hElsewhere j hj with ⟨hDelivers, hFails⟩
    exact ((s.metricsAt j).after_of_other hDelivers
      hFails).symm

/- An answer counts at the place it comes from. -/
theorem answered_elsewhere
    (o : DeliveryOrder)
    (result : Except CommandError DeliveryReceipt)
    (j : Nat)
    (hj : j ≠ place) :
    (DeliveryNote.answered o (some place) result).delivers j =
        false ∧
      (DeliveryNote.answered o (some place) result).fails j =
        false := by
  cases result <;>
    simp [DeliveryNote.delivers, DeliveryNote.fails, hj.symm]

/- What was delivered counts as such. -/
theorem Puts.metricsAt_delivered
    (hPuts : Puts s s' place d d')
    (hMetrics : d'.metrics = { d.metrics with
      delivered := d.metrics.delivered + 1 })
    (o : DeliveryOrder)
    (receipt : DeliveryReceipt)
    (j : Nat) :
    s'.metricsAt j = (s.metricsAt j).after j
      [.answered o (some place) (.ok receipt)] := by
  refine hPuts.metricsAt_after ?_ (answered_elsewhere _ _) j
  rw [hMetrics]
  simp [DestinationMetrics.after, DeliveryNote.delivers,
    DeliveryNote.fails]

/- So does what a transport has failed to deliver. -/
theorem Puts.metricsAt_failed
    (hPuts : Puts s s' place d d')
    (hMetrics : d'.metrics = { d.metrics with
      failed := d.metrics.failed + 1 })
    (o : DeliveryOrder)
    (e : DeliveryError)
    (j : Nat) :
    s'.metricsAt j = (s.metricsAt j).after j
      [.answered o (some place) (.error (.delivery e))] := by
  refine hPuts.metricsAt_after ?_ (answered_elsewhere _ _) j
  rw [hMetrics]
  simp [DestinationMetrics.after, DeliveryNote.delivers,
    DeliveryNote.fails, CommandError.isNotRunning]

/- Where no destination was reached, none counts. -/
theorem answered_nowhere
    (o : DeliveryOrder)
    (result : Except CommandError DeliveryReceipt)
    (j : Nat) :
    (DeliveryNote.answered o none result).delivers j =
        false ∧
      (DeliveryNote.answered o none result).fails j =
        false := by
  cases result <;>
    simp [DeliveryNote.delivers, DeliveryNote.fails]

theorem metricsAt_deliver
    (s : DeliverySession)
    (via : Option Nat)
    (hardwareId : String)
    (i : CommandInvocation)
    (j : Nat) :
    (s.deliver via hardwareId i).2.metricsAt j =
      (s.metricsAt j).after j
        (s.deliver via hardwareId i).1.toList := by
  have hCases := s.hub.deliver_cases via s.hub.nextTicket
    hardwareId i
  unfold deliver
  dsimp only [order]
  generalize s.hub.deliver via s.hub.nextTicket hardwareId i =
    r at hCases ⊢
  cases hCases with
  | nowhere hPlace hSent hNever =>
      dsimp only
      rw [hPlace]
      rcases answered_nowhere (s.order via hardwareId i)
        (.error _) j with ⟨hDelivers, hFails⟩
      exact ((s.metricsAt j).after_of_other hDelivers
        hFails).symm
  | @failed place d e hReaches =>
      have hPuts := puts_equip hReaches.destination
        (d.counting e)
      dsimp only
      rw [hReaches.goes]
      refine (hPuts _ rfl).metricsAt_after ?_
        (answered_elsewhere _ _) j
      cases hRuns : e.isNotRunning <;>
        simp [Destination.counting, DestinationMetrics.after,
          DeliveryNote.delivers, DeliveryNote.fails, hRuns]
  | @taken place d m t hReaches hTakes hWaiting =>
      have hPuts := puts_equip hReaches.destination
        { d with
          transport := t
          metrics := { d.metrics with
            delivered := d.metrics.delivered + 1 } }
      dsimp only
      rw [hReaches.goes]
      exact (hPuts _ rfl).metricsAt_delivered rfl _ _ j
  | @refused place d m t e hReaches hQueue hWaiting =>
      have hPuts := puts_equip hReaches.destination
        { d with
          transport := t
          metrics := { d.metrics with
            failed := d.metrics.failed + 1 } }
      dsimp only
      rw [hReaches.goes]
      exact (hPuts _ rfl).metricsAt_failed rfl _ e j
  | @held place d m t hReaches hQueue hWaiting =>
      have hPuts := puts_equip hReaches.destination
        { d with transport := t }
      exact (hPuts _ rfl).metricsAt_after
        (d.metrics.after_of_other rfl rfl).symm
        (fun _ _ => ⟨rfl, rfl⟩) j

theorem metricsAt_serve
    (s : DeliverySession)
    (place j : Nat) :
    (s.serve place).2.metricsAt j =
      (s.metricsAt j).after j (s.serve place).1.toList := by
  unfold serve
  split
  · rfl
  · rename_i d hAt
    split
    · rfl
    · rename_i ticket served transport hServe
      split
      · rfl
      · cases served with
        | ok =>
            have hPuts := puts_equip hAt
              { d with
                transport := transport
                metrics := { d.metrics with
                  delivered := d.metrics.delivered + 1 } }
            exact (hPuts _ rfl).metricsAt_delivered rfl _ _ j
        | error e =>
            have hPuts := puts_equip hAt
              { d with
                transport := transport
                metrics := { d.metrics with
                  failed := d.metrics.failed + 1 } }
            exact (hPuts _ rfl).metricsAt_failed rfl _ e j

theorem metricsAt_register
    (s : DeliverySession)
    (d : Destination)
    (hMetrics : d.metrics = ⟨0, 0⟩)
    (j : Nat) :
    (s.register d).2.metricsAt j =
      (s.metricsAt j).after j (s.register d).1.toList := by
  unfold register
  split
  · exact ((s.metricsAt j).after_of_other rfl rfl).symm
  · rename_i h hOk
    rcases register_cases hOk with ⟨-, rfl⟩
    have hSame : (s.metricsAt j).after j
        [.registered d.id] = s.metricsAt j :=
      (s.metricsAt j).after_of_other rfl rfl
    simp only [Option.toList_some, hSame]
    unfold metricsAt destination? setHub
    dsimp only
    rw [List.getElem?_append]
    split
    · rfl
    · rename_i hLength
      rw [List.getElem?_eq_none (Nat.le_of_not_lt hLength)]
      cases hLast : [d][j -
          s.hub.equipment.destinations.length]? with
      | none => rfl
      | some d' =>
          rw [List.mem_singleton.1
            (List.mem_of_getElem? hLast)]
          exact hMetrics

/- Every move counts what it answers. -/
theorem metricsAt_step
    (s : DeliverySession)
    (m : DeliveryMove)
    (j : Nat) :
    (s.step m).2.metricsAt j =
      (s.metricsAt j).after j (s.step m).1.toList := by
  cases m with
  | map token id => rfl
  | fallBack id => rfl
  | register id encoding templates mode =>
      exact s.metricsAt_register _ rfl j
  | control part action =>
      simp only [step, control]
      split
      · rfl
      · rename_i result h hControl
        rcases Hub.controlled_of_control hControl with
          ⟨i, p, t, u, hControlled⟩
        have hSame := hControlled.sameFixtures.destinations
        rw [show (DeliverySession.setHub s h).metricsAt j =
            s.metricsAt j by
          simp only [metricsAt, destination?, setHub, hSame]]
        exact ((s.metricsAt j).after_of_other rfl rfl).symm
  | store b => rfl
  | deliver via hardwareId i =>
      exact s.metricsAt_deliver via hardwareId i j
  | serve place => exact s.metricsAt_serve place j
  | handle place event =>
      simp only [step, handle]
      split
      · rfl
      · rename_i d hAt
        have hPuts := puts_equip hAt
          { d with transport := d.transport.after event }
        rw [(hPuts _ rfl).metricsAt_eq]
        split
        · rename_i hj
          simp [hj, metricsAt, hAt]
        · rfl

/- Over any moves, the answers are counted. -/
theorem metricsAt_run
    (s : DeliverySession)
    (moves : List DeliveryMove)
    (j : Nat) :
    (s.run moves).2.metricsAt j =
      (s.metricsAt j).after j (s.run moves).1 := by
  refine runAll_induct
    (P := fun _ notes (u : DeliverySession) =>
      u.metricsAt j = (s.metricsAt j).after j notes)
    (fun _ _ u m hSoFar => ?_) rfl moves
  rw [DestinationMetrics.after_append, ← hSoFar]
  exact u.metricsAt_step m j

/- A move is noted once, if at all. -/
theorem length_run_le
    (s : DeliverySession)
    (moves : List DeliveryMove) :
    (s.run moves).1.length ≤ moves.length := by
  refine runAll_induct
    (P := fun (taken : List DeliveryMove)
        (notes : List DeliveryNote) _ =>
      notes.length ≤ taken.length)
    (fun _ _ s m hSoFar => ?_) (Nat.le_refl 0) moves
  rw [List.length_append, List.length_append]
  refine Nat.add_le_add hSoFar ?_
  cases (s.step m).1 <;> simp

/- So no counter grows by more than the number of moves. -/
theorem metricsAt_run_le
    (s : DeliverySession)
    (moves : List DeliveryMove)
    (j : Nat) :
    ((s.run moves).2.metricsAt j).delivered ≤
        (s.metricsAt j).delivered + moves.length ∧
      ((s.run moves).2.metricsAt j).failed ≤
        (s.metricsAt j).failed + moves.length := by
  rw [s.metricsAt_run]
  have hNotes := s.length_run_le moves
  exact ⟨Nat.add_le_add_left
      (Nat.le_trans List.countP_le_length hNotes) _,
    Nat.add_le_add_left
      (Nat.le_trans List.countP_le_length hNotes) _⟩

end Counting

end DeliverySession

end DeviceHub

------------------------------------------------------------
-- What Was Sent
------------------------------------------------------------

namespace DeviceHub

namespace DeliverySession

/-
  An answer is to the delivery that is asked for, or to one
  that was pending.
-/
theorem order_of_answered
    {s : DeliverySession}
    {m : DeliveryMove}
    {o : DeliveryOrder}
    {place : Option Nat}
    {result : Except CommandError DeliveryReceipt}
    (hNote : (s.step m).1 = some (.answered o place result)) :
    (∃ via hardwareId i, m = .deliver via hardwareId i ∧
      o = s.order via hardwareId i) ∨
    ∃ place' shipment, m = .serve place' ∧
      (o, shipment) ∈ s.pending := by
  cases m with
  | map token id => cases hNote
  | fallBack id => cases hNote
  | register id encoding templates mode =>
      simp only [step, register] at hNote
      split at hNote <;> cases hNote
  | control part action =>
      simp only [step, control] at hNote
      split at hNote <;> cases hNote
  | store b => cases hNote
  | deliver via hardwareId i =>
      simp only [step, deliver] at hNote
      split at hNote
      · cases hNote
        exact .inl ⟨via, hardwareId, i, rfl, rfl⟩
      · cases hNote
  | serve place' =>
      simp only [step, serve] at hNote
      split at hNote
      · cases hNote
      · split at hNote
        · cases hNote
        · split at hNote
          · cases hNote
          · rename_i o' shipment hFound
            cases hNote
            exact .inr ⟨place', shipment, rfl,
              List.mem_of_find?_eq_some hFound⟩
  | handle place event => cases hNote

/- A delivery that gets nowhere is answered at once. -/
theorem answered_of_nowhere
    {s : DeliverySession}
    {via : Option Nat}
    {hardwareId : String}
    (hPlace : s.hub.placeFor? via hardwareId = none)
    (i : CommandInvocation) :
    s.hub.handsOver via hardwareId i = [] ∧
      ∃ e, e.neverSent = true ∧
        (s.step (.deliver via hardwareId i)).1 =
          some (.answered (s.order via hardwareId i) none
            (.error e)) := by
  have hCases := s.hub.deliver_cases via s.hub.nextTicket
    hardwareId i
  simp only [step, deliver]
  dsimp only [order]
  rw [hPlace]
  generalize s.hub.deliver via s.hub.nextTicket hardwareId i =
    r at hCases ⊢
  have hReached : ∀ {place d r},
      s.hub.Reaches via hardwareId i place d r → False := by
    intro place d r hReaches
    have hGoes := hReaches.goes
    rw [hPlace] at hGoes
    cases hGoes
  cases hCases with
  | nowhere _ hSent hNever => exact ⟨hSent, _, hNever, rfl⟩
  | failed hReaches => exact (hReached hReaches).elim
  | taken hReaches => exact (hReached hReaches).elim
  | refused hReaches => exact (hReached hReaches).elim
  | held hReaches => exact (hReached hReaches).elim

/-
  A delivery fails at the first stage that fails, with an
  error that says it was never sent, and hands nothing over;
  where no stage fails, its one message is offered to the
  transport once.  Through a router it is the same, or no
  destination is reached at all.

  In any session an error says that a command was never sent
  exactly if nothing was handed over, and no queue has
  changed; a command that was delivered has added its message
  to one queue.  A destination counts its answers, but for
  those it gives while it is not started, and its counters
  are words while they can be: no move adds more than one.
-/
theorem neverSent_exact
    {s : DeliverySession}
    (hReach : s.Reachable) :
    (∀ (d : Destination) status b ticket hardwareId i,
      (∃! r, d.Stages status b hardwareId i r) ∧
      (∀ e, d.Stages status b hardwareId i (.error e) →
        e.neverSent = true ∧
        d.handsOver status b hardwareId i = [] ∧
        d.begin status b ticket hardwareId i =
          (.finished (.error e), d.counting e)) ∧
      ∀ m, d.Stages status b hardwareId i (.ok m) →
        d.handsOver status b hardwareId i = [m] ∧
        d.begin status b ticket hardwareId i =
          d.handOver (d.receipt b.now hardwareId i)
            (d.transport.offer ticket m)) ∧
    (∀ via hardwareId i,
      (∀ place, s.hub.placeFor? via hardwareId = some place →
        ∃ d, s.destination? place = some d ∧
          s.hub.handsOver via hardwareId i =
            d.handsOver (s.hub.status (.destination place))
              s.hub.equipment.backend hardwareId i) ∧
      (s.hub.placeFor? via hardwareId = none →
        s.hub.handsOver via hardwareId i = [] ∧
          ∃ e, e.neverSent = true ∧
            (s.step (.deliver via hardwareId i)).1 =
              some (.answered (s.order via hardwareId i) none
                (.error e)))) ∧
    (∀ m o place result,
      (s.step m).1 = some (.answered o place result) →
      ((∃ via hardwareId i, m = .deliver via hardwareId i ∧
          o = s.order via hardwareId i) ∨
        ∃ place' shipment, m = .serve place' ∧
          (o, shipment) ∈ s.pending) ∧
      (∀ e, result = .error e →
        (e.neverSent = true ↔ o.sent = []) ∧
        o.sent.length ≤ 1 ∧
        ∀ j, (s.step m).2.queueAt? j = s.queueAt? j) ∧
      ∀ receipt, result = .ok receipt →
        ∃ p d message, place = some p ∧
          s.destination? p = some d ∧
          d.prepare o.backend o.hardwareId o.invocation =
            .ok message ∧
          o.sent = [message] ∧
          (d.transport.mode ≠ .drained →
            ∀ j, (s.step m).2.queueAt? j =
              if j = p then
                some (d.transport.queue ++ [message])
              else s.queueAt? j)) ∧
    (∀ m o shipment,
      (s.step m).1 = some (.held o shipment) →
      (∃ message, o.sent = [message]) ∧
        ∀ j, (s.step m).2.queueAt? j = s.queueAt? j) ∧
    (∀ moves place, (s.run moves).2.metricsAt place =
      ⟨(s.metricsAt place).delivered +
          (s.run moves).1.countP (·.delivers place),
        (s.metricsAt place).failed +
          (s.run moves).1.countP (·.fails place)⟩) ∧
    ∀ moves place,
      let before := s.metricsAt place
      let after := (s.run moves).2.metricsAt place
      (before.delivered + moves.length < 2 ^ 64 →
        after.delivered < 2 ^ 64) ∧
      (before.failed + moves.length < 2 ^ 64 →
        after.failed < 2 ^ 64) := by
  have hChange := hReach.sound.change_step
  refine ⟨?_, ?_, ?_, ?_, s.metricsAt_run, ?_⟩
  · intro d status b ticket hardwareId i
    refine ⟨d.existsUnique_stages status b hardwareId i, ?_,
      ?_⟩
    · intro e hStages
      exact ⟨hStages.neverSent,
        Destination.handsOver_of_error hStages,
        Destination.begin_of_error hStages ticket⟩
    · intro m hStages
      exact ⟨Destination.handsOver_of_ok hStages,
        Destination.begin_of_ok hStages ticket⟩
  · intro via hardwareId i
    refine ⟨?_, fun hPlace => answered_of_nowhere hPlace i⟩
    intro place hPlace
    have hLength : place <
        s.hub.equipment.destinations.length := by
      unfold Hub.placeFor? at hPlace
      simpa using (Option.filter_eq_some_iff.1 hPlace).2
    have hAt := List.getElem?_eq_getElem hLength
    have hReaches : s.hub.Reaches via hardwareId i place _ _ :=
      ⟨hPlace, hAt, Destination.stages_iff.2 rfl⟩
    exact ⟨_, hAt, hReaches.handsOver_eq⟩
  · intro m o place result hNote
    have hSettled := (hChange m).settled o place result hNote
    refine ⟨order_of_answered hNote, ?_, ?_⟩
    · rintro e rfl
      cases hSettled with
      | unsent hSent hNever hQueues =>
          simp [hSent, hNever, hQueues]
      | failed hAt hPrepared hSent hQueues =>
          simp [hSent, CommandError.neverSent, hQueues]
    · rintro receipt rfl
      cases hSettled with
      | delivered hAt hPrepared hSent hTakes hQueues =>
          refine ⟨_, _, _, rfl, hAt, hPrepared, hSent, ?_⟩
          intro hMode j
          rw [hQueues, hTakes.queue hMode]
  · intro m o shipment hNote
    exact (hChange m).held o shipment hNote
  · intro moves place before after
    rcases s.metricsAt_run_le moves place with
      ⟨hDelivered, hFailed⟩
    exact ⟨Nat.lt_of_le_of_lt hDelivered,
      Nat.lt_of_le_of_lt hFailed⟩

/- A store with one device in use and one command. -/
def pumpStore : DeviceStore :=
  ((DeviceStore.empty.addDevice (.new "a" "pump" default)
    ).addAssignment (.new "t" "a")).addCommand
      (.new "reboot" "Reboot")

/- A started router with one channel that holds one message. -/
def pumpSession : DeliverySession :=
  ((new (.bare (.of pumpStore default toString))).run
    [.register "main" .json none (.channel 1 true),
      .control .router .start]).2

theorem reachable_pumpSession :
    pumpSession.Reachable := by
  refine ⟨.bare (.of pumpStore default toString), _, ?_, rfl⟩
  intro d hMem
  cases hMem

/-
  The channel takes one command and holds another, which
  fails once the receiver is gone.  A command for a device
  that is not known gets nowhere.
-/
theorem neverSent_exact_pump :
    let i : CommandInvocation := .new "i" "reboot"
    let moves : List DeliveryMove :=
      [.deliver none "a" i, .deliver none "a" i,
        .handle 0 .closeReceiver, .serve 0]
    let unknown : DeliveryMove := .deliver none "b" i
    pumpSession.Reachable ∧
      (pumpSession.run moves).2.metricsAt 0 = ⟨1, 1⟩ ∧
      (pumpSession.step unknown).1 =
        some (.answered (pumpSession.order none "b" i) none
          (.error (.unknownDevice "b"))) ∧
      (pumpSession.order none "b" i).sent = [] := by
  intro i moves unknown
  have hNote : (pumpSession.step unknown).1 =
      some (.answered (pumpSession.order none "b" i) none
        (.error (.unknownDevice "b"))) := rfl
  rcases neverSent_exact reachable_pumpSession with
    ⟨-, -, hAnswers, -, hCounts, -⟩
  have hUnknown :=
    (hAnswers unknown _ _ _ hNote).2.1 _ rfl
  refine ⟨reachable_pumpSession, ?_, hNote,
    hUnknown.1.1 rfl⟩
  rw [hCounts moves 0]
  decide +kernel

end DeliverySession

end DeviceHub
