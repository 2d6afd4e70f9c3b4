import DeviceHub.Proofs.Delivery.Stages
import DeviceHub.Proofs.Hub.Delivery

/-
  The delivery of one command, whatever the hub is like.

  A command gets to no destination, or to one.  There it
  fails at a stage, or its message is offered to the
  transport, which takes, refuses or holds it.  Nothing is
  handed to a transport in any other way.

  Key definitions include:
    * `Hub.Reaches`
    * `Hub.DeliverOf`

  Main statements:
    * `Hub.Reaches.handsOver_eq`
    * `Hub.deliver_cases`
-/

------------------------------------------------------------
-- Errors on the Way to a Destination
------------------------------------------------------------

namespace DeviceHub

namespace Hub

/- No error of the storage is one of a transport. -/
theorem neverSent_of_findDevice
    {b : Backend}
    {hardwareId : String}
    {e : CommandError}
    (hDevice : Destination.findDevice b hardwareId =
      .error e) :
    e.neverSent = true := by
  unfold Destination.findDevice at hDevice
  split at hDevice
  · cases hDevice
    rfl
  · cases hDevice
    rfl
  · cases hDevice

/- No error of the choice of a destination is one either. -/
theorem neverSent_of_route
    {r : Router}
    {device : Device}
    {e : CommandError}
    (hRoute : r.route device = .error e) :
    e.neverSent = true := by
  unfold Router.route at hRoute
  split at hRoute
  · cases hRoute
    rfl
  · split at hRoute
    · cases hRoute
      rfl
    · cases hRoute

theorem neverSent_of_routeFor
    {h : Hub}
    {hardwareId : String}
    {e : CommandError}
    (hRoute : h.routeFor hardwareId = .error e) :
    e.neverSent = true := by
  unfold routeFor at hRoute
  split at hRoute
  · cases hDevice : Destination.findDevice
        h.equipment.backend hardwareId with
    | error e' =>
        rw [hDevice] at hRoute
        cases hRoute
        exact neverSent_of_findDevice hDevice
    | ok device =>
        rw [hDevice, ok_bind] at hRoute
        cases hRouted : h.equipment.router.route device with
        | error e' =>
            rw [hRouted] at hRoute
            cases hRoute
            exact neverSent_of_route hRouted
        | ok found =>
            rw [hRouted] at hRoute
            cases hRoute
  · cases hRoute
    rfl

------------------------------------------------------------
-- Recording a Delivery
------------------------------------------------------------

/- A delivery at a place changes the destination there. -/
theorem deliverAt_hub
    {h : Hub}
    {place : Nat}
    {d : Destination}
    (hAt : h.equipment.destinations[place]? = some d)
    (ticket : Nat)
    (hardwareId : String)
    (i : CommandInvocation) :
    (h.deliverAt place ticket hardwareId i).2 =
      h.equip (·.setDestination place
        (d.begin (h.status (.destination place))
          h.equipment.backend ticket hardwareId i).2) := by
  unfold deliverAt
  simp only [hAt]
  split <;> rfl

/- Lists that are empty but at one place. -/
theorem flatMap_set
    {α β : Type}
    {f : α → List β}
    {items : List α}
    (hEmpty : ∀ a ∈ items, f a = [])
    {place : Nat}
    (hPlace : place < items.length)
    (a : α) :
    (items.set place a).flatMap f = f a := by
  have hNone : ∀ part : List α, (∀ b ∈ part, b ∈ items) →
      part.flatMap f = [] := by
    intro part hPart
    exact List.flatMap_eq_nil_iff.2
      fun b hb => hEmpty b (hPart b hb)
  rw [List.set_eq_take_append_cons_drop, if_pos hPlace,
    List.flatMap_append, List.flatMap_cons,
    hNone _ fun _ => List.mem_of_mem_take,
    hNone _ fun _ => List.mem_of_mem_drop,
    List.nil_append, List.append_nil]

/- Recorders begin with no messages. -/
theorem queue_recording
    (h : Hub) :
    ∀ d ∈ h.recording.equipment.destinations,
      d.transport.queue = [] := by
  intro d hMem
  rcases List.mem_map.1 hMem with ⟨d', -, rfl⟩
  rfl

/- What is handed over at a place is all there is. -/
theorem recorded_deliverAt
    {h : Hub}
    {place : Nat}
    {d : Destination}
    (hAt : h.equipment.destinations[place]? = some d)
    (hardwareId : String)
    (i : CommandInvocation) :
    (h.recording.deliverAt place 0 hardwareId i
      ).2.equipment.destinations.flatMap
        (·.transport.queue) =
      d.handsOver (h.status (.destination place))
        h.equipment.backend hardwareId i := by
  have hAt' : h.recording.equipment.destinations[place]? =
      some d.recording := by
    simp [recording, equip, hAt]
  rw [deliverAt_hub hAt']
  exact flatMap_set h.queue_recording
    (List.getElem?_eq_some_iff.1 hAt').1 _

/- Where no destination is reached, nothing is handed over. -/
theorem recorded_self
    (h : Hub) :
    h.recording.equipment.destinations.flatMap
      (·.transport.queue) = [] :=
  List.flatMap_eq_nil_iff.2 h.queue_recording

------------------------------------------------------------
-- Deliveries
------------------------------------------------------------

/-
  A delivery gets to the destination `d` at a place, where
  its stages come to `r`.
-/
structure Reaches
    (h : Hub)
    (via : Option Nat)
    (hardwareId : String)
    (i : CommandInvocation)
    (place : Nat)
    (d : Destination)
    (r : Except CommandError Outbound) : Prop where
  goes : h.placeFor? via hardwareId = some place
  destination : h.equipment.destinations[place]? = some d
  stages : d.Stages (h.status (.destination place))
    h.equipment.backend hardwareId i r

/- What becomes of a delivery. -/
inductive DeliverOf
    (h : Hub)
    (via : Option Nat)
    (ticket : Nat)
    (hardwareId : String)
    (i : CommandInvocation) :
    DeliveryStep × Hub → Prop where
  | nowhere
      {e : CommandError}
      (hPlace : h.placeFor? via hardwareId = none)
      (hSent : h.handsOver via hardwareId i = [])
      (hNever : e.neverSent = true) :
      DeliverOf h via ticket hardwareId i
        (.finished (.error e), h)
  | failed
      {place : Nat}
      {d : Destination}
      {e : CommandError}
      (hReaches : h.Reaches via hardwareId i place d
        (.error e)) :
      DeliverOf h via ticket hardwareId i
        (.finished (.error e),
          h.equip (·.setDestination place (d.counting e)))
  | taken
      {place : Nat}
      {d : Destination}
      {m : Outbound}
      {t : Transport}
      (hReaches : h.Reaches via hardwareId i place d (.ok m))
      (hTakes : d.transport.Takes t m)
      (hWaiting : t.waiting = d.transport.waiting) :
      DeliverOf h via ticket hardwareId i
        (.finished (.ok (d.receipt h.now hardwareId i)),
          h.equip (·.setDestination place { d with
            transport := t
            metrics := { d.metrics with
              delivered := d.metrics.delivered + 1 } }))
  | refused
      {place : Nat}
      {d : Destination}
      {m : Outbound}
      {t : Transport}
      {e : DeliveryError}
      (hReaches : h.Reaches via hardwareId i place d (.ok m))
      (hQueue : t.queue = d.transport.queue)
      (hWaiting : t.waiting = d.transport.waiting) :
      DeliverOf h via ticket hardwareId i
        (.finished (.error (.delivery e)),
          h.equip (·.setDestination place { d with
            transport := t
            metrics := { d.metrics with
              failed := d.metrics.failed + 1 } }))
  | held
      {place : Nat}
      {d : Destination}
      {m : Outbound}
      {t : Transport}
      (hReaches : h.Reaches via hardwareId i place d (.ok m))
      (hQueue : t.queue = d.transport.queue)
      (hWaiting :
        t.waiting = d.transport.waiting ++ [(ticket, m)]) :
      DeliverOf h via ticket hardwareId i
        (.waiting ⟨place, d.receipt h.now hardwareId i⟩,
          h.equip (·.setDestination place
            { d with transport := t }))

/- A delivery at the place that it gets to. -/
theorem Reaches.deliverAt_cases
    {h : Hub}
    {via : Option Nat}
    {hardwareId : String}
    {i : CommandInvocation}
    {place : Nat}
    {d : Destination}
    {r : Except CommandError Outbound}
    (hReaches : h.Reaches via hardwareId i place d r)
    (ticket : Nat) :
    DeliverOf h via ticket hardwareId i
      (h.deliverAt place ticket hardwareId i) := by
  unfold deliverAt
  simp only [hReaches.destination]
  cases r with
  | error e =>
      rw [Destination.begin_of_error hReaches.stages]
      exact .failed hReaches
  | ok m =>
      rw [Destination.begin_of_ok hReaches.stages]
      have hOffer := d.transport.offer_takes ticket m
      generalize d.transport.offer ticket m = o at hOffer ⊢
      cases hOffer with
      | taken hTakes hWaiting =>
          exact .taken hReaches hTakes hWaiting
      | refused e hQueue hWaiting =>
          exact .refused hReaches hQueue hWaiting
      | held hQueue hWaiting =>
          exact .held hReaches hQueue hWaiting

/- A delivery at a place where there is no destination. -/
theorem deliverAt_of_none
    {h : Hub}
    {place : Nat}
    (hAt : h.equipment.destinations[place]? = none)
    (ticket : Nat)
    (hardwareId : String)
    (i : CommandInvocation) :
    h.deliverAt place ticket hardwareId i =
      (.finished (.error (.unknownDestination "")), h) := by
  unfold deliverAt
  rw [hAt]

/- A delivery for which a place has been found. -/
theorem deliverAt_cases
    {h : Hub}
    {via : Option Nat}
    {hardwareId : String}
    {i : CommandInvocation}
    {place : Nat}
    (hPlace : h.placeFor? via hardwareId =
      (some place).filter
        (· < h.equipment.destinations.length))
    (hSent : h.handsOver via hardwareId i =
      (h.recording.deliverAt place 0 hardwareId i
        ).2.equipment.destinations.flatMap
          (·.transport.queue))
    (ticket : Nat) :
    DeliverOf h via ticket hardwareId i
      (h.deliverAt place ticket hardwareId i) := by
  cases hAt : h.equipment.destinations[place]? with
  | none =>
      have hLength := List.getElem?_eq_none_iff.1 hAt
      rw [deliverAt_of_none hAt]
      refine .nowhere ?_ ?_ rfl
      · rw [hPlace]
        simpa using hLength
      · rw [hSent, deliverAt_of_none (by
          simpa [recording, equip] using hLength)]
        exact h.recorded_self
  | some d =>
      have hLength := (List.getElem?_eq_some_iff.1 hAt).1
      have hGoes : h.placeFor? via hardwareId =
          some place := by
        rw [hPlace, Option.filter_some,
          if_pos (decide_eq_true hLength)]
      have hReaches : h.Reaches via hardwareId i place d _ :=
        ⟨hGoes, hAt, Destination.stages_iff.2 rfl⟩
      exact hReaches.deliverAt_cases ticket

/- What becomes of any delivery. -/
theorem deliver_cases
    (h : Hub)
    (via : Option Nat)
    (ticket : Nat)
    (hardwareId : String)
    (i : CommandInvocation) :
    DeliverOf h via ticket hardwareId i
      (h.deliver via ticket hardwareId i) := by
  cases via with
  | some place => exact deliverAt_cases rfl rfl ticket
  | none =>
      unfold deliver
      cases hRoute : h.routeFor hardwareId with
      | error e =>
          have hRoute' : h.recording.routeFor hardwareId =
              .error e := hRoute
          refine .nowhere ?_ ?_ (neverSent_of_routeFor hRoute)
          · simp [placeFor?, hRoute, Except.toOption]
          · simp only [handsOver, deliver, hRoute']
            exact h.recorded_self
      | ok place =>
          have hRoute' : h.recording.routeFor hardwareId =
              .ok place := hRoute
          refine deliverAt_cases ?_ ?_ ticket
          · simp [placeFor?, hRoute, Except.toOption]
          · simp only [handsOver, deliver, hRoute']

namespace Reaches

variable {h : Hub}
variable {via : Option Nat}
variable {hardwareId : String}
variable {i : CommandInvocation}
variable {place : Nat}
variable {d : Destination}
variable {r : Except CommandError Outbound}

/-
  What is handed over in all is what the destination hands
  over.
-/
theorem handsOver_eq
    (hReaches : h.Reaches via hardwareId i place d r) :
    h.handsOver via hardwareId i =
      d.handsOver (h.status (.destination place))
        h.equipment.backend hardwareId i := by
  rw [← recorded_deliverAt hReaches.destination]
  have hPlace := hReaches.goes
  unfold placeFor? at hPlace
  rcases Option.filter_eq_some_iff.1 hPlace with ⟨hGoes, -⟩
  cases via with
  | some place' =>
      cases hGoes
      rfl
  | none =>
      have hRoute : h.recording.routeFor hardwareId =
          .ok place := toOption_eq_some_iff.1 hGoes
      simp only [handsOver, deliver, hRoute]

/- Nothing is handed over where a stage fails. -/
theorem handsOver_of_error
    {e : CommandError}
    (hReaches : h.Reaches via hardwareId i place d
      (.error e)) :
    h.handsOver via hardwareId i = [] :=
  hReaches.handsOver_eq.trans
    (Destination.handsOver_of_error hReaches.stages)

/- One message is where none does. -/
theorem handsOver_of_ok
    {m : Outbound}
    (hReaches : h.Reaches via hardwareId i place d (.ok m)) :
    h.handsOver via hardwareId i = [m] :=
  hReaches.handsOver_eq.trans
    (Destination.handsOver_of_ok hReaches.stages)

end Reaches

end Hub

end DeviceHub
