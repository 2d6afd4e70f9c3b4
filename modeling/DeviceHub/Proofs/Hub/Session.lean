import DeviceHub.Proofs.Hub.Control
import DeviceHub.Proofs.Hub.Dispatch

/-
  Sessions of deliveries, move by move.

  A message waits at a transport only for a delivery that is
  pending, which handed over this message and no other.  So
  an answer, at once or after a wait, tells whether a message
  was handed over, and what became of it.

  Key definitions include:
    * `DeliverySession.Sound`
    * `DeliverySession.Settled`
    * `DeliverySession.Change`
    * `DeliverySession.Reachable`

  Main statements:
    * `DeliverySession.Sound.change_step`
    * `DeliverySession.Reachable.sound`
-/

namespace DeviceHub

/- Only the encoding and the templates matter to a message. -/
theorem Destination.prepare_congr
    {d d' : Destination}
    (hEncoding : d'.encoding = d.encoding)
    (hTemplates : d'.templates = d.templates)
    (b : Backend)
    (hardwareId : String)
    (i : CommandInvocation) :
    d'.prepare b hardwareId i = d.prepare b hardwareId i := by
  simp only [prepare, topicsFor, hEncoding, hTemplates]

namespace DeliverySession

------------------------------------------------------------
-- Sound Sessions
------------------------------------------------------------

/-
  Pending deliveries have tickets of their own, and whatever
  waits at a transport is the message of one of them.
-/
structure Sound
    (s : DeliverySession) : Prop where
  tickets : ∀ x ∈ s.pending, x.1.ticket < s.hub.nextTicket
  distinct : (s.pending.map (·.1.ticket)).Nodup
  waiting : ∀ place d, s.destination? place = some d →
    ∀ n m, (n, m) ∈ d.transport.waiting →
      ∃ x ∈ s.pending, x.1.ticket = n ∧ x.2.place = place ∧
        x.1.sent = [m] ∧
        d.prepare x.1.backend x.1.hardwareId
          x.1.invocation = .ok m
  lined : ∀ place d, s.destination? place = some d →
    (d.transport.waiting.map (·.1)).Nodup

/-
  What an answer says of the sessions before and after: the
  delivery never got to a transport, or its message was
  handed to one, which did not take it, or did.
-/
inductive Settled
    (s s' : DeliverySession)
    (o : DeliveryOrder) :
    Option Nat → Except CommandError DeliveryReceipt →
      Prop where
  | unsent
      {place : Option Nat}
      {e : CommandError}
      (hSent : o.sent = [])
      (hNever : e.neverSent = true)
      (hQueues : ∀ j, s'.queueAt? j = s.queueAt? j) :
      Settled s s' o place (.error e)
  | failed
      {place : Nat}
      {d : Destination}
      {m : Outbound}
      {e : DeliveryError}
      (hAt : s.destination? place = some d)
      (hPrepared : d.prepare o.backend o.hardwareId
        o.invocation = .ok m)
      (hSent : o.sent = [m])
      (hQueues : ∀ j, s'.queueAt? j = s.queueAt? j) :
      Settled s s' o (some place) (.error (.delivery e))
  | delivered
      {place : Nat}
      {d : Destination}
      {m : Outbound}
      {t : Transport}
      {receipt : DeliveryReceipt}
      (hAt : s.destination? place = some d)
      (hPrepared : d.prepare o.backend o.hardwareId
        o.invocation = .ok m)
      (hSent : o.sent = [m])
      (hTakes : d.transport.Takes t m)
      (hQueues : ∀ j, s'.queueAt? j =
        if j = place then some t.queue
        else s.queueAt? j) :
      Settled s s' o (some place) (.ok receipt)

/-
  A move keeps a session sound.  What it answers is settled
  and counted; a delivery that is held adds to no queue.
-/
structure Change
    (s : DeliverySession)
    (r : Option DeliveryNote × DeliverySession) : Prop where
  sound : r.2.Sound
  settled : ∀ o place result,
    r.1 = some (.answered o place result) →
    Settled s r.2 o place result
  held : ∀ o shipment, r.1 = some (.held o shipment) →
    (∃ m, o.sent = [m]) ∧
      ∀ j, r.2.queueAt? j = s.queueAt? j

/-
  Nothing is added to what waits: destinations are what they
  were, as far as messages are prepared and wait, or new.
-/
theorem Sound.of_waiting
    {s s' : DeliverySession}
    (hSound : s.Sound)
    (hPending : s'.pending = s.pending)
    (hTickets : s.hub.nextTicket ≤ s'.hub.nextTicket)
    (hWaiting : ∀ place d', s'.destination? place = some d' →
      d'.transport.waiting = [] ∨
        ∃ d, s.destination? place = some d ∧
          d'.encoding = d.encoding ∧
          d'.templates = d.templates ∧
          d'.transport.waiting = d.transport.waiting) :
    s'.Sound where
  tickets := by
    rw [hPending]
    intro x hMem
    exact Nat.lt_of_lt_of_le (hSound.tickets x hMem) hTickets
  distinct := hPending ▸ hSound.distinct
  waiting := by
    intro place d' hAt n m hMem
    rw [hPending]
    rcases hWaiting place d' hAt with
      hNone | ⟨d, hd, hEncoding, hTemplates, hSame⟩
    · rw [hNone] at hMem
      cases hMem
    · rw [hSame] at hMem
      rcases hSound.waiting place d hd n m hMem with
        ⟨x, hx, hTicket, hPlace, hSent, hPrepared⟩
      refine ⟨x, hx, hTicket, hPlace, hSent, ?_⟩
      rw [Destination.prepare_congr hEncoding hTemplates]
      exact hPrepared
  lined := by
    intro place d' hAt
    rcases hWaiting place d' hAt with
      hNone | ⟨d, hd, -, -, hSame⟩
    · rw [hNone]
      exact .nil
    · rw [hSame]
      exact hSound.lined place d hd

/- A hub at rest, on whose transports nothing waits. -/
theorem Sound.new
    {h : Hub}
    (hRest : ∀ d ∈ h.equipment.destinations,
      d.transport.waiting = []) :
    (DeliverySession.new h).Sound where
  tickets := fun x hMem => by cases hMem
  distinct := .nil
  waiting := by
    intro place d hAt n m hMem
    rw [hRest d (List.mem_of_getElem? hAt)] at hMem
    cases hMem
  lined := by
    intro place d hAt
    rw [hRest d (List.mem_of_getElem? hAt)]
    exact .nil

------------------------------------------------------------
-- Quiet Moves
------------------------------------------------------------

section Moves

variable {s : DeliverySession}

/- What the destinations of a session are after a change. -/
theorem destination?_setHub
    (s : DeliverySession)
    (h : Hub)
    (place : Nat) :
    (s.setHub h).destination? place =
      h.equipment.destinations[place]? := rfl

/- A move that says nothing of deliveries. -/
theorem Change.of_sound
    {s' : DeliverySession}
    {note : Option DeliveryNote}
    (hSound : s'.Sound)
    (hAnswer : ∀ o place result,
      note ≠ some (.answered o place result))
    (hHeld : ∀ o shipment, note ≠ some (.held o shipment)) :
    Change s (note, s') where
  sound := hSound
  settled := fun o place result hNote =>
    absurd hNote (hAnswer o place result)
  held := fun o shipment hNote =>
    absurd hNote (hHeld o shipment)

/- A hub with the same destinations is as good. -/
theorem Sound.of_destinations
    (hSound : s.Sound)
    {h : Hub}
    (hTickets : h.nextTicket = s.hub.nextTicket)
    (hSame : h.equipment.destinations =
      s.hub.equipment.destinations) :
    (s.setHub h).Sound := by
  refine hSound.of_waiting rfl (Nat.le_of_eq hTickets.symm) ?_
  intro place d hAt
  rw [destination?_setHub, hSame] at hAt
  exact .inr ⟨d, hAt, rfl, rfl, rfl⟩

/- What it takes to register a destination. -/
theorem register_cases
    {h h' : Hub}
    {d : Destination}
    (hOk : h.register d = .ok h') :
    h.equipment.router.destinations.get? d.id = none ∧
      h' = { h with
        forest := h.addBelowRouter
          (Equipment.destinationTree
            h.equipment.destinations.length d)
        equipment := { h.equipment with
          router := { h.equipment.router with
            destinations :=
              h.equipment.router.destinations.insert d.id
                h.equipment.destinations.length }
          destinations :=
            h.equipment.destinations ++ [d] } } := by
  unfold Hub.register at hOk
  rcases bind_eq_ok_iff.1 hOk with ⟨router, hRouter, hSame⟩
  unfold Router.register at hRouter
  split at hRouter
  · cases hRouter
  · rename_i hFree
    cases hRouter
    cases hSame
    refine ⟨?_, rfl⟩
    simpa [Dict.contains] using hFree

theorem Sound.change_register
    (hSound : s.Sound)
    {d : Destination}
    (hWaiting : d.transport.waiting = []) :
    Change s (s.register d) := by
  unfold register
  split
  · exact .of_sound hSound (fun _ _ _ h => by cases h)
      fun _ _ h => by cases h
  · rename_i h hOk
    rcases register_cases hOk with ⟨-, rfl⟩
    refine .of_sound (hSound.of_waiting rfl (Nat.le_refl _) ?_)
      (fun _ _ _ h => by cases h) fun _ _ h => by cases h
    intro place d' hAt
    rw [destination?_setHub, List.getElem?_append] at hAt
    split at hAt
    · exact .inr ⟨d', hAt, rfl, rfl, rfl⟩
    · rw [List.mem_singleton.1 (List.mem_of_getElem? hAt)]
      exact .inl hWaiting

theorem Sound.change_control
    (hSound : s.Sound)
    (part : Part)
    (action : LifecycleAction) :
    Change s (s.control part action) := by
  unfold control
  split
  · exact .of_sound hSound (fun _ _ _ h => by cases h)
      fun _ _ h => by cases h
  · rename_i result h hControl
    rcases Hub.controlled_of_control hControl with
      ⟨i, p, t, u, hControlled⟩
    refine .of_sound (hSound.of_destinations ?_
      hControlled.sameFixtures.destinations)
      (fun _ _ _ h => by cases h) fun _ _ h => by cases h
    rw [hControlled.hub]

------------------------------------------------------------
-- Changes at One Place
------------------------------------------------------------

/- The destination at one place is another one. -/
structure Puts
    (s s' : DeliverySession)
    (place : Nat)
    (d d' : Destination) : Prop where
  before : s.destination? place = some d
  after : ∀ j, s'.destination? j =
    if j = place then some d' else s.destination? j

/- To put a destination in its place is such a change. -/
theorem puts_equip
    {place : Nat}
    {d : Destination}
    (hAt : s.destination? place = some d)
    (d' : Destination)
    (s' : DeliverySession)
    (hSame : s'.hub.equipment =
      (s.hub.equip (·.setDestination place d')).equipment) :
    Puts s s' place d d' where
  before := hAt
  after := by
    intro j
    unfold destination?
    rw [hSame]
    exact Hub.getElem?_setDestination hAt d' j

namespace Puts

variable {s' : DeliverySession}
variable {place : Nat}
variable {d d' : Destination}
variable (hPuts : Puts s s' place d d')

include hPuts

theorem queueAt?_eq
    (j : Nat) :
    s'.queueAt? j =
      if j = place then some d'.transport.queue
      else s.queueAt? j := by
  unfold queueAt?
  rw [hPuts.after]
  split <;> rfl

/- The same queue at the place is the same at all places. -/
theorem queueAt?_of_eq
    (hQueue : d'.transport.queue = d.transport.queue)
    (j : Nat) :
    s'.queueAt? j = s.queueAt? j := by
  rw [hPuts.queueAt?_eq]
  split
  · rename_i hj
    rw [hj, hQueue]
    simp [queueAt?, hPuts.before]
  · rfl

/- Where the same messages wait, a session is sound still. -/
theorem sound
    (hSound : s.Sound)
    (hPending : s'.pending = s.pending)
    (hTickets : s.hub.nextTicket ≤ s'.hub.nextTicket)
    (hEncoding : d'.encoding = d.encoding)
    (hTemplates : d'.templates = d.templates)
    (hWaiting : d'.transport.waiting = d.transport.waiting) :
    s'.Sound := by
  refine hSound.of_waiting hPending hTickets ?_
  intro j e hAt
  rw [hPuts.after] at hAt
  split at hAt
  · rename_i hj
    cases hAt
    exact .inr ⟨d, hj ▸ hPuts.before, hEncoding, hTemplates,
      hWaiting⟩
  · exact .inr ⟨e, hAt, rfl, rfl, rfl⟩

end Puts

theorem Sound.handle
    (hSound : s.Sound)
    (place : Nat)
    (event : TransportEvent) :
    (s.handle place event).Sound := by
  unfold DeliverySession.handle
  split
  · exact hSound
  · rename_i d hAt
    have hPuts := puts_equip hAt
      { d with transport := d.transport.after event }
      (s.setHub (s.hub.equip _)) rfl
    exact hPuts.sound hSound rfl (Nat.le_refl _) rfl rfl
      (d.transport.waiting_after event)

------------------------------------------------------------
-- Deliveries
------------------------------------------------------------

/- No message that waits has the next ticket. -/
theorem Sound.not_waiting_next
    (hSound : s.Sound)
    {place : Nat}
    {d : Destination}
    (hAt : s.destination? place = some d) :
    s.hub.nextTicket ∉ d.transport.waiting.map (·.1) := by
  intro hMem
  rcases List.mem_map.1 hMem with ⟨⟨n, m⟩, hIn, hn⟩
  rcases hSound.waiting place d hAt n m hIn with
    ⟨x, hx, hSame, -⟩
  have hLess := hSound.tickets x hx
  dsimp only at hn
  omega

/- A ticket waits at one place only. -/
theorem Sound.waits_once
    (hSound : s.Sound)
    {place place' n : Nat}
    {d d' : Destination}
    {m m' : Outbound}
    (hAt : s.destination? place = some d)
    (hIn : (n, m) ∈ d.transport.waiting)
    (hAt' : s.destination? place' = some d')
    (hIn' : (n, m') ∈ d'.transport.waiting) :
    place' = place := by
  rcases hSound.waiting place d hAt n m hIn with
    ⟨x, hx, hTicket, hPlace, -⟩
  rcases hSound.waiting place' d' hAt' n m' hIn' with
    ⟨y, hy, hTicket', hPlace', -⟩
  have hSame := List.inj_on_of_nodup_map hSound.distinct
    hx hy (hTicket.trans hTicket'.symm)
  rw [← hPlace, ← hPlace', hSame]

/- A new message waits, for a delivery that is now pending. -/
theorem Sound.held
    (hSound : s.Sound)
    {s' : DeliverySession}
    {place : Nat}
    {d d' : Destination}
    {m : Outbound}
    {o : DeliveryOrder}
    {shipment : Shipment}
    (hPuts : Puts s s' place d d')
    (hEncoding : d'.encoding = d.encoding)
    (hTemplates : d'.templates = d.templates)
    (hWaiting : d'.transport.waiting =
      d.transport.waiting ++ [(o.ticket, m)])
    (hPending : s'.pending = s.pending ++ [(o, shipment)])
    (hTicket : o.ticket = s.hub.nextTicket)
    (hTickets : s'.hub.nextTicket = s.hub.nextTicket + 1)
    (hPlace : shipment.place = place)
    (hSent : o.sent = [m])
    (hPrepared : d.prepare o.backend o.hardwareId
      o.invocation = .ok m) :
    s'.Sound := by
  have hOld : ∀ j e, s.destination? j = some e →
      ∀ n m', (n, m') ∈ e.transport.waiting →
        ∃ x ∈ s'.pending, x.1.ticket = n ∧ x.2.place = j ∧
          x.1.sent = [m'] ∧
          e.prepare x.1.backend x.1.hardwareId
            x.1.invocation = .ok m' := by
    intro j e hAt n m' hIn
    rcases hSound.waiting j e hAt n m' hIn with ⟨x, hx, hAll⟩
    refine ⟨x, ?_, hAll⟩
    rw [hPending]
    exact List.mem_append_left _ hx
  refine ⟨?_, ?_, ?_, ?_⟩
  · intro x hMem
    rw [hPending] at hMem
    rcases List.mem_append.1 hMem with hx | hx
    · have hLess := hSound.tickets x hx
      omega
    · rw [List.mem_singleton.1 hx]
      dsimp only
      omega
  · rw [hPending, List.map_append, List.nodup_append]
    refine ⟨hSound.distinct, by simp, ?_⟩
    intro n hn k hk hSame
    rcases List.mem_map.1 hn with ⟨x, hx, rfl⟩
    have hLess := hSound.tickets x hx
    simp only [List.map_cons, List.map_nil,
      List.mem_singleton] at hk
    omega
  · intro j e hAt n m' hIn
    rw [hPuts.after] at hAt
    split at hAt
    · rename_i hj
      subst hj
      cases hAt
      rw [hWaiting] at hIn
      simp only
        [Destination.prepare_congr hEncoding hTemplates]
      rcases List.mem_append.1 hIn with hIn | hIn
      · exact hOld j d hPuts.before n m' hIn
      · cases List.mem_singleton.1 hIn
        refine ⟨(o, shipment), ?_, rfl, hPlace, hSent,
          hPrepared⟩
        rw [hPending]
        exact List.mem_append_right _
          (List.mem_singleton.2 rfl)
    · exact hOld j e hAt n m' hIn
  · intro j e hAt
    rw [hPuts.after] at hAt
    split at hAt
    · rename_i hj
      subst hj
      cases hAt
      rw [hWaiting, List.map_append, List.nodup_append]
      refine ⟨hSound.lined j d hPuts.before, by simp, ?_⟩
      intro n hn k hk hSame
      simp only [List.map_cons, List.map_nil,
        List.mem_singleton] at hk
      rw [hSame, hk, hTicket] at hn
      exact hSound.not_waiting_next hPuts.before hn
    · exact hSound.lined j e hAt

theorem Sound.change_deliver
    (hSound : s.Sound)
    (via : Option Nat)
    (hardwareId : String)
    (i : CommandInvocation) :
    Change s (s.deliver via hardwareId i) := by
  have hCases := s.hub.deliver_cases via s.hub.nextTicket
    hardwareId i
  unfold deliver
  dsimp only [order]
  generalize s.hub.deliver via s.hub.nextTicket hardwareId i =
    r at hCases ⊢
  cases hCases with
  | nowhere hPlace hSent hNever =>
      refine ⟨hSound.of_waiting rfl (Nat.le_succ _) ?_, ?_,
        fun _ _ h => by cases h⟩
      · intro j d hAt
        exact .inr ⟨d, hAt, rfl, rfl, rfl⟩
      · intro o place result hNote
        cases hNote
        exact .unsent hSent hNever fun _ => rfl
  | @failed place d e hReaches =>
      have hPuts := puts_equip hReaches.destination
        (d.counting e)
      refine ⟨(hPuts _ rfl).sound hSound rfl (Nat.le_succ _)
        (by simp) (by simp) (by simp), ?_,
        fun _ _ h => by cases h⟩
      intro o place' result hNote
      cases hNote
      exact .unsent hReaches.handsOver_of_error
        hReaches.stages.neverSent
        ((hPuts _ rfl).queueAt?_of_eq (by simp))
  | @taken place d m t hReaches hTakes hWaiting =>
      have hPuts := puts_equip hReaches.destination
        { d with
          transport := t
          metrics := { d.metrics with
            delivered := d.metrics.delivered + 1 } }
      refine ⟨(hPuts _ rfl).sound hSound rfl (Nat.le_succ _)
        rfl rfl hWaiting, ?_, fun _ _ h => by cases h⟩
      intro o place' result hNote
      rw [hReaches.goes] at hNote
      cases hNote
      exact .delivered hReaches.destination
        hReaches.stages.started.2 hReaches.handsOver_of_ok
        hTakes (hPuts _ rfl).queueAt?_eq
  | @refused place d m t e hReaches hQueue hWaiting =>
      have hPuts := puts_equip hReaches.destination
        { d with
          transport := t
          metrics := { d.metrics with
            failed := d.metrics.failed + 1 } }
      refine ⟨(hPuts _ rfl).sound hSound rfl (Nat.le_succ _)
        rfl rfl hWaiting, ?_, fun _ _ h => by cases h⟩
      intro o place' result hNote
      rw [hReaches.goes] at hNote
      cases hNote
      exact .failed hReaches.destination
        hReaches.stages.started.2 hReaches.handsOver_of_ok
        ((hPuts _ rfl).queueAt?_of_eq hQueue)
  | @held place d m t hReaches hQueue hWaiting =>
      have hPuts := puts_equip hReaches.destination
        { d with transport := t }
      refine ⟨hSound.held (hPuts _ rfl) rfl rfl hWaiting rfl
        rfl rfl rfl hReaches.handsOver_of_ok
        hReaches.stages.started.2, ?_, ?_⟩
      · intro o place' result hNote
        cases hNote
      · intro o shipment hNote
        cases hNote
        exact ⟨⟨m, hReaches.handsOver_of_ok⟩,
          (hPuts _ rfl).queueAt?_of_eq hQueue⟩

/- The delivery that is served is no longer pending. -/
theorem Sound.served
    (hSound : s.Sound)
    {s' : DeliverySession}
    {place : Nat}
    {d d' : Destination}
    {n : Nat}
    {m : Outbound}
    (hPuts : Puts s s' place d d')
    (hEncoding : d'.encoding = d.encoding)
    (hTemplates : d'.templates = d.templates)
    (hWaiting : d.transport.waiting =
      (n, m) :: d'.transport.waiting)
    (hPending : s'.pending =
      s.pending.filter (·.1.ticket != n))
    (hTickets : s'.hub.nextTicket = s.hub.nextTicket) :
    s'.Sound := by
  have hMem : ∀ x, x ∈ s'.pending ↔
      x ∈ s.pending ∧ x.1.ticket ≠ n := by
    intro x
    rw [hPending, List.mem_filter]
    simp
  have hLined := hSound.lined place d hPuts.before
  rw [hWaiting, List.map_cons, List.nodup_cons] at hLined
  have hServed : (n, m) ∈ d.transport.waiting := by
    rw [hWaiting]
    exact List.mem_cons_self
  refine ⟨?_, ?_, ?_, ?_⟩
  · intro x hx
    rw [hTickets]
    exact hSound.tickets x ((hMem x).1 hx).1
  · rw [hPending]
    exact hSound.distinct.sublist
      (List.filter_sublist.map _)
  · intro j e hAt k m' hIn
    have hBefore : ∃ e₀, s.destination? j = some e₀ ∧
        (k, m') ∈ e₀.transport.waiting ∧
        e.encoding = e₀.encoding ∧
        e.templates = e₀.templates ∧ k ≠ n := by
      rw [hPuts.after] at hAt
      split at hAt
      · rename_i hj
        subst hj
        cases hAt
        refine ⟨d, hPuts.before, ?_, hEncoding, hTemplates, ?_⟩
        · rw [hWaiting]
          exact List.mem_cons_of_mem _ hIn
        · rintro rfl
          exact hLined.1 (List.mem_map.2 ⟨_, hIn, rfl⟩)
      · rename_i hj
        refine ⟨e, hAt, hIn, rfl, rfl, ?_⟩
        rintro rfl
        -- The ticket that is served waits nowhere else.
        exact hj (hSound.waits_once hPuts.before hServed
          hAt hIn)
    rcases hBefore with
      ⟨e₀, hAt₀, hIn₀, hEncoding₀, hTemplates₀, hOther⟩
    rcases hSound.waiting j e₀ hAt₀ k m' hIn₀ with
      ⟨x, hx, hTicket, hPlace, hSent, hPrepared⟩
    refine ⟨x, (hMem x).2 ⟨hx, hTicket ▸ hOther⟩, hTicket,
      hPlace, hSent, ?_⟩
    rw [Destination.prepare_congr hEncoding₀ hTemplates₀]
    exact hPrepared
  · intro j e hAt
    rw [hPuts.after] at hAt
    split at hAt
    · cases hAt
      exact hLined.2
    · exact hSound.lined j e hAt

theorem Sound.change_serve
    (hSound : s.Sound)
    (place : Nat) :
    Change s (s.serve place) := by
  have hNothing : Change s (none, s) :=
    .of_sound hSound (fun _ _ _ h => by cases h)
      fun _ _ h => by cases h
  unfold serve
  split
  · exact hNothing
  · rename_i d hAt
    split
    · exact hNothing
    · rename_i ticket served transport hServe
      split
      · exact hNothing
      · rename_i o shipment hFound
        rcases Transport.serve?_takes hServe with
          ⟨m, hWaiting, hServed⟩
        have hIn : (ticket, m) ∈ d.transport.waiting := by
          rw [hWaiting]
          exact List.mem_cons_self
        rcases hSound.waiting place d hAt ticket m hIn with
          ⟨x, hx, hTicket, -, hSent, hPrepared⟩
        have hOrder : x = (o, shipment) := by
          refine List.inj_on_of_nodup_map hSound.distinct hx
            (List.mem_of_find?_eq_some hFound) ?_
          have hSame : o.ticket = ticket := by
            simpa using List.find?_some hFound
          exact hTicket.trans hSame.symm
        subst hOrder
        cases hServed with
        | taken hTakes =>
            have hPuts := puts_equip hAt
              { d with
                transport := transport
                metrics := { d.metrics with
                  delivered := d.metrics.delivered + 1 } }
            refine ⟨hSound.served (hPuts _ rfl) rfl rfl
              hWaiting rfl rfl, ?_, fun _ _ h => by cases h⟩
            intro o' place' result hNote
            cases hNote
            exact .delivered hAt hPrepared hSent hTakes
              (hPuts _ rfl).queueAt?_eq
        | refused e hQueue =>
            have hPuts := puts_equip hAt
              { d with
                transport := transport
                metrics := { d.metrics with
                  failed := d.metrics.failed + 1 } }
            refine ⟨hSound.served (hPuts _ rfl) rfl rfl
              hWaiting rfl rfl, ?_, fun _ _ h => by cases h⟩
            intro o' place' result hNote
            cases hNote
            exact .failed hAt hPrepared hSent
              ((hPuts _ rfl).queueAt?_of_eq hQueue)

------------------------------------------------------------
-- Steps and Runs
------------------------------------------------------------

/- What any move makes of a sound session. -/
theorem Sound.change_step
    (hSound : s.Sound)
    (m : DeliveryMove) :
    Change s (s.step m) := by
  have hQuiet : ∀ {s'}, s'.Sound → Change s (none, s') :=
    fun h => .of_sound h (fun _ _ _ h => by cases h)
      fun _ _ h => by cases h
  cases m with
  | map token id =>
      exact hQuiet (hSound.of_destinations rfl rfl)
  | fallBack id =>
      exact hQuiet (hSound.of_destinations rfl rfl)
  | register id encoding templates mode =>
      exact hSound.change_register rfl
  | control part action =>
      exact hSound.change_control part action
  | store b => exact hQuiet (hSound.of_destinations rfl rfl)
  | deliver via hardwareId i =>
      exact hSound.change_deliver via hardwareId i
  | serve place => exact hSound.change_serve place
  | handle place event =>
      exact hQuiet (hSound.handle place event)

end Moves

/- Any moves keep a session sound. -/
theorem Sound.run
    {s : DeliverySession}
    (hSound : s.Sound)
    (moves : List DeliveryMove) :
    (s.run moves).2.Sound :=
  runAll_keeps (P := Sound)
    (fun _ m hSound => (hSound.change_step m).sound)
    hSound moves

/-
  Some moves lead to a session from a hub on whose transports
  nothing waits.
-/
def Reachable
    (s : DeliverySession) : Prop :=
  ∃ h moves,
    (∀ d ∈ h.equipment.destinations,
      d.transport.waiting = []) ∧
    ((new h).run moves).2 = s

/- Sessions that can be reached are sound. -/
theorem Reachable.sound
    {s : DeliverySession}
    (hReach : s.Reachable) :
    s.Sound := by
  rcases hReach with ⟨h, moves, hRest, rfl⟩
  exact (Sound.new hRest).run moves

end DeliverySession

end DeviceHub
