import DeviceHub.Proofs.Hub.Delivery

/-
  What the action on one element of a command batch does to
  a hub.

  If the device is in use, the command is recorded as an
  event, whether it can be delivered or not.  If it gets to
  a destination, one message is added to the channel there.
  Nothing else changes that a later element depends on.

  Key definitions include:
    * `Hub.Acted`
    * `Hub.Blocked`

  Main statements:
    * `Hub.Ready.actOn`
-/

namespace DeviceHub

namespace Hub

------------------------------------------------------------
-- One Element
------------------------------------------------------------

/-
  What became of a hub by the action on the element of a
  device, and the result of the action.
-/
structure Acted
    (h h' : Hub)
    (o : BatchOperation)
    (token : String)
    (values : Dict String)
    (hardwareId : String)
    (result : Except String (Dict String)) : Prop where
  engine : h'.engine = h.engine
  calls : h'.calls = h.calls
  alike : h'.Alike h
  ready : h'.Ready
  created : h'.equipment.backend.created =
    h.equipment.backend.created +
      if (h.equipment.backend.assigned? hardwareId).isSome
      then 1 else 0
  events : ∀ other,
    h'.equipment.backend.store.eventsOf other =
      h.equipment.backend.store.eventsOf other ++
        if other = hardwareId then
          ((h.equipment.backend.assigned? hardwareId).map
            fun d => DeviceStore.stored d
              (h.equipment.backend.eventId
                (h.equipment.backend.created + 1))
              h.now hardwareId
              (o.invocationEvent hardwareId token values)
            ).toList
        else []
  queues : ∀ (place : Nat) (d : Destination),
    h.equipment.destinations[place]? = some d →
    ∃ d', h'.equipment.destinations[place]? = some d' ∧
      d'.transport.queue = d.transport.queue ++
        if h.commandPlace? token values hardwareId =
            some place then
          (d.prepare h.equipment.backend hardwareId
            (o.invocation (h.equipment.backend.eventId
              (h.equipment.backend.created + 1)) token
              values)).toOption.toList
        else []
  succeeded : ∀ place,
    h.commandPlace? token values hardwareId = some place →
    result = .ok (.ofList [("invocationEventId",
      h.equipment.backend.eventId
        (h.equipment.backend.created + 1))])
  failed :
    h.commandPlace? token values hardwareId = none →
    ∃ e, result = .error e

/- Of the operation, only the id shows in what is done. -/
theorem Acted.congr_operation
    {h h' : Hub}
    {o o' : BatchOperation}
    {token : String}
    {values : Dict String}
    {hardwareId : String}
    {result : Except String (Dict String)}
    (hActed : Acted h h' o token values hardwareId result)
    (hId : o'.id = o.id) :
    Acted h h' o' token values hardwareId result := by
  have hEvent : o'.invocationEvent hardwareId token values =
      o.invocationEvent hardwareId token values := by
    simp only [BatchOperation.invocationEvent,
      BatchOperation.reference, hId]
  have hInvocation : ∀ eventId,
      o'.invocation eventId token values =
        o.invocation eventId token values := by
    intro eventId
    simp only [BatchOperation.invocation,
      BatchOperation.reference, hId]
  refine ⟨hActed.engine, hActed.calls, hActed.alike,
    hActed.ready, hActed.created, ?_, ?_, hActed.succeeded,
    hActed.failed⟩
  · rw [hEvent]
    exact hActed.events
  · rw [hInvocation]
    exact hActed.queues

/- A command gets nowhere for a device that is not in use. -/
theorem commandPlace?_of_not_assigned
    {h : Hub}
    {hardwareId : String}
    (hAssigned : h.equipment.backend.assigned? hardwareId =
      none)
    (token : String)
    (values : Dict String) :
    h.commandPlace? token values hardwareId = none := by
  cases hPlace : h.commandPlace? token values hardwareId with
  | none => rfl
  | some place =>
      rcases (commandPlace?_eq_some_iff _ _ _ _ _).1 hPlace
        with ⟨device, assignment, -, -, -, hDevice, hToken, -⟩
      simp [Backend.assigned?, hDevice, Device.isAssigned,
        hToken] at hAssigned

/- What a hub needs to deliver depends on its setup. -/
theorem Ready.of_alike
    {h h' : Hub}
    (hReady : h.Ready)
    (hAlike : h'.Alike h)
    (hWaiting : ∀ d ∈ h'.equipment.destinations,
      d.transport.waiting = []) :
    h'.Ready where
  faults := hAlike.faults.trans hReady.faults
  router := (hAlike.status_eq .router).trans hReady.router
  channels := by
    intro d hMem
    rcases List.mem_iff_getElem?.1 hMem with ⟨place, hAt⟩
    rcases hAlike.symm.exists_destination hAt with
      ⟨d', hAt', hSetup⟩
    rcases hReady.channels d' (List.mem_of_getElem? hAt') with
      ⟨capacity, isOpen, hMode⟩
    simp only [Destination.setup, Prod.mk.injEq] at hSetup
    exact ⟨capacity, isOpen, hSetup.2.2.2.symm.trans hMode⟩
  waiting := hWaiting

/- A device that is not in use leaves the hub as it is. -/
theorem Ready.acted_of_not_assigned
    {h : Hub}
    (hReady : h.Ready)
    {hardwareId : String}
    (hAssigned : h.equipment.backend.assigned? hardwareId =
      none)
    (o : BatchOperation)
    (token : String)
    (values : Dict String)
    (e : String) :
    Acted h h o token values hardwareId (.error e) := by
  have hPlace := commandPlace?_of_not_assigned hAssigned
    token values
  refine ⟨rfl, rfl, .refl h, hReady, ?_, ?_, ?_, ?_, ?_⟩
  · simp [hAssigned]
  · simp [hAssigned]
  · intro place d hAt
    exact ⟨d, hAt, by simp [hPlace]⟩
  · intro place hSome
    rw [hPlace] at hSome
    cases hSome
  · exact fun _ => ⟨e, rfl⟩

/- A destination of the same setup leaves nothing waiting. -/
theorem Ready.setDestination
    {h : Hub}
    (hReady : h.Ready)
    {place : Nat}
    {d d' : Destination}
    (hAt : h.equipment.destinations[place]? = some d)
    (hSetup : d'.setup = d.setup)
    (hWaiting : d'.transport.waiting = d.transport.waiting) :
    (h.equip (·.setDestination place d')).Ready := by
  refine hReady.of_alike (alike_setDestination hAt hSetup) ?_
  intro e hMem
  rcases List.mem_iff_getElem?.1 hMem with ⟨i, hi⟩
  rw [getElem?_setDestination hAt] at hi
  split at hi
  · rw [Option.some.injEq] at hi
    subst hi
    rw [hWaiting]
    exact hReady.waiting d (List.mem_of_getElem? hAt)
  · exact hReady.waiting e (List.mem_of_getElem? hi)

/-
  The command for a device in use is recorded, and then it
  is not delivered: no message goes out.
-/
theorem Ready.acted_of_recorded
    {h h' : Hub}
    (hReady : h.Ready)
    {hardwareId : String}
    {device : Device}
    (hAssigned : h.equipment.backend.assigned? hardwareId =
      some device)
    (o : BatchOperation)
    (token : String)
    (values : Dict String)
    {result : Except String (Dict String)}
    (hRecorded : h' = h.setBackend
      (h.equipment.backend.record device hardwareId
        (o.invocationEvent hardwareId token values)))
    (hResult : ∃ e, result = .error e)
    (hPlace : h.commandPlace? token values hardwareId =
      none) :
    Acted h h' o token values hardwareId result := by
  subst hRecorded
  have hAlike := h.alike_record device hardwareId
    (o.invocationEvent hardwareId token values)
  refine ⟨rfl, rfl, hAlike,
    hReady.of_alike hAlike hReady.waiting, ?_, ?_, ?_, ?_,
    fun _ => hResult⟩
  · rw [hAssigned]
    rfl
  · intro other
    rw [hAssigned]
    exact Backend.eventsOf_record device hardwareId other _
  · intro place d hAt
    exact ⟨d, hAt, by simp [hPlace]⟩
  · intro place hSome
    rw [hPlace] at hSome
    cases hSome

/- A destination that only counts a failure hides nothing. -/
theorem Acted.setDestination
    {h h' : Hub}
    {o : BatchOperation}
    {token : String}
    {values : Dict String}
    {hardwareId : String}
    {result : Except String (Dict String)}
    (hActed : Acted h h' o token values hardwareId result)
    {place : Nat}
    {d d' : Destination}
    (hAt : h'.equipment.destinations[place]? = some d)
    (hSetup : d'.setup = d.setup)
    (hTransport : d'.transport = d.transport) :
    Acted h (h'.equip (·.setDestination place d')) o token
      values hardwareId result := by
  have hAlike := alike_setDestination hAt hSetup
  have hReady := hActed.ready.setDestination hAt hSetup
    (by rw [hTransport])
  refine ⟨hActed.engine, hActed.calls,
    hAlike.trans hActed.alike, hReady, hActed.created,
    hActed.events, ?_, hActed.succeeded, hActed.failed⟩
  intro i f hf
  rcases hActed.queues i f hf with ⟨g, hg, hQueue⟩
  rw [getElem?_setDestination hAt]
  by_cases hi : i = place
  · subst hi
    rw [hAt, Option.some.injEq] at hg
    subst hg
    refine ⟨d', if_pos rfl, ?_⟩
    rw [hTransport]
    exact hQueue
  · exact ⟨g, (if_neg hi).trans hg, hQueue⟩

/-
  The command for a device in use is recorded, and then the
  destination that it gets to takes its message.
-/
theorem Ready.acted_of_sent
    {h recorded : Hub}
    (hReady : h.Ready)
    {hardwareId : String}
    {device : Device}
    (hAssigned : h.equipment.backend.assigned? hardwareId =
      some device)
    (o : BatchOperation)
    (token : String)
    (values : Dict String)
    (hRecorded : recorded = h.setBackend
      (h.equipment.backend.record device hardwareId
        (o.invocationEvent hardwareId token values)))
    {place : Nat}
    {d d' : Destination}
    {m : Outbound}
    (hPlace : h.commandPlace? token values hardwareId =
      some place)
    (hAt : recorded.equipment.destinations[place]? = some d)
    (hSetup : d'.setup = d.setup)
    (hPrepared : d.prepare recorded.equipment.backend
      hardwareId (o.invocation (h.equipment.backend.eventId
        (h.equipment.backend.created + 1)) token values) =
          .ok m)
    (hTransport : d'.transport = d.transport.push m) :
    Acted h (recorded.equip (·.setDestination place d')) o
      token values hardwareId
      (.ok (.ofList [("invocationEventId",
        h.equipment.backend.eventId
          (h.equipment.backend.created + 1))])) := by
  have hAlike : recorded.Alike h := by
    rw [hRecorded]
    exact h.alike_record device hardwareId _
  have hReady' : recorded.Ready := by
    refine hReady.of_alike hAlike ?_
    rw [hRecorded]
    exact hReady.waiting
  rw [hAlike.prepare_eq rfl] at hPrepared
  have hSent := alike_setDestination hAt hSetup
  subst hRecorded
  refine ⟨rfl, rfl, hSent.trans hAlike,
    hReady'.setDestination hAt hSetup
      (by rw [hTransport]; rfl), ?_, ?_, ?_,
    fun _ _ => rfl, ?_⟩
  · rw [hAssigned]
    rfl
  · intro other
    rw [hAssigned]
    exact Backend.eventsOf_record device hardwareId other _
  · intro i f hf
    rw [getElem?_setDestination hAt, hPlace]
    by_cases hi : i = place
    · subst hi
      have hSame : d = f :=
        Option.some.inj (hAt.symm.trans hf)
      subst hSame
      refine ⟨d', if_pos rfl, ?_⟩
      simp [hTransport, Transport.push, hPrepared,
        Except.toOption]
    · exact ⟨f, (if_neg hi).trans hf, by
        simp [Ne.symm hi]⟩
  · intro hNone
    rw [hPlace] at hNone
    cases hNone

/-
  After the record, a destination may take its message, or
  may only count a failure.
-/
theorem Ready.acted_of_delivery
    {h h' : Hub}
    (hReady : h.Ready)
    {hardwareId : String}
    {device : Device}
    (hAssigned : h.equipment.backend.assigned? hardwareId =
      some device)
    (o : BatchOperation)
    (token : String)
    (values : Dict String)
    {recorded : Hub}
    (hRecorded : recorded = h.setBackend
      (h.equipment.backend.record device hardwareId
        (o.invocationEvent hardwareId token values)))
    {r : Except CommandError DeliveryReceipt}
    (hDelivery : Delivery recorded
      (o.invocation (h.equipment.backend.eventId
        (h.equipment.backend.created + 1)) token values)
      hardwareId (.finished r, h')) :
    Acted h h' o token values hardwareId
      (BatchOperation.delivered
        (.ofList [("invocationEventId",
          h.equipment.backend.eventId
            (h.equipment.backend.created + 1))])
        (deliveryResult r)) := by
  have hAlike : recorded.Alike h := by
    rw [hRecorded]
    exact h.alike_record device hardwareId _
  have hSamePlace :=
    hAlike.commandPlace?_eq token values hardwareId
  cases hDelivery with
  | refused e hPlace =>
      exact hReady.acted_of_recorded hAssigned o token values
        hRecorded ⟨_, rfl⟩ (hSamePlace.symm.trans hPlace)
  | @failed e place d d' hPlace hAt hSetup hTransport =>
      exact (hReady.acted_of_recorded hAssigned o token
        values hRecorded ⟨_, rfl⟩
          (hSamePlace.symm.trans hPlace)).setDestination hAt
            hSetup hTransport
  | @sent receipt place d d' m hPlace hAt hSetup hPrepared
      hTransport =>
      exact hReady.acted_of_sent hAssigned o token values
        hRecorded (hSamePlace.symm.trans hPlace) hAt hSetup
          hPrepared hTransport

/- Once a command is recorded, the delivery decides. -/
theorem actOn_of_prepared
    (h : Hub)
    {o : BatchOperation}
    {token : String}
    {values : Dict String}
    (hAction : o.action = .invokeCommand token values)
    (ticket : Nat)
    (x : BatchElement)
    {i : CommandInvocation}
    {b : Backend}
    (hPrepared : o.prepareCommand h.equipment.backend
      x.hardwareId token values = .ok (i, b))
    {step : DeliveryStep}
    {h' : Hub}
    (hStep : (h.setBackend b).deliver h.via ticket
      x.hardwareId i = (step, h')) :
    h.actOn ticket o x =
      match step with
      | .finished r =>
          (true, h'.settleElement ticket
            (BatchOperation.delivered
              (.ofList [("invocationEventId", i.id)])
              (deliveryResult r)))
      | .waiting shipment =>
          (false, h'.setPhase ticket
            (.processing (some (shipment,
              .ofList [("invocationEventId", i.id)])))) := by
  have hVia : (h.setBackend b).via = h.via := rfl
  cases step <;>
    simp only [actOn, BatchOperation.act, hAction,
      hPrepared, hVia, hStep]

/-
  The delivery that a call waits for is at a full channel,
  and no message waits anywhere else.
-/
structure Blocked
    (h : Hub)
    (shipment : Shipment) : Prop where
  full : ∃ d,
    h.equipment.destinations[shipment.place]? = some d ∧
      d.transport.isFull = true
  serve : ∀ d ∈ h.equipment.destinations,
    d.transport.serve? = none

/- Only the full channel of a ready hub has a message wait. -/
theorem Ready.blocked
    {h : Hub}
    (hReady : h.Ready)
    {shipment : Shipment}
    {d d' : Destination}
    (hAt : h.equipment.destinations[shipment.place]? = some d)
    (hFull : d'.transport.isFull = true) :
    (h.equip (·.setDestination shipment.place d')).Blocked
      shipment := by
  have hNew := getElem?_setDestination hAt d'
  refine ⟨⟨d', (hNew _).trans (if_pos rfl), hFull⟩, ?_⟩
  intro e hMem
  rcases List.mem_iff_getElem?.1 hMem with ⟨i, hi⟩
  rw [hNew] at hi
  split at hi
  · rw [Option.some.injEq] at hi
    rw [← hi]
    exact Transport.serve?_of_isFull hFull
  · have hNone := hReady.waiting e (List.mem_of_getElem? hi)
    simp [Transport.serve?, hNone]

/- The action on an element is carried out, or blocked. -/
theorem Ready.actOn
    {h : Hub}
    (hReady : h.Ready)
    (hVia : h.via = none)
    {o : BatchOperation}
    {token : String}
    {values : Dict String}
    (hAction : o.action = .invokeCommand token values)
    (ticket : Nat)
    (x : BatchElement) :
    (∃ (h' : Hub) (result : Except String (Dict String)),
      h.actOn ticket o x =
        (true, h'.settleElement ticket result) ∧
      Acted h h' o token values x.hardwareId result) ∨
    ∃ (h' : Hub) (current : Shipment × Dict String),
      h.actOn ticket o x =
        (false, h'.setPhase ticket
          (.processing (some current))) ∧
      h'.calls = h.calls ∧ h'.Blocked current.1 := by
  have hFaults := hReady.faults
  cases hAssigned :
      h.equipment.backend.assigned? x.hardwareId with
  | none =>
      rcases o.prepareCommand_of_not_assigned hFaults
        hAssigned token values with ⟨e, hPrepared⟩
      refine .inl ⟨h, .error e.message, ?_,
        hReady.acted_of_not_assigned hAssigned o token
          values e.message⟩
      simp only [Hub.actOn, BatchOperation.act, hAction,
        hPrepared]
      rfl
  | some device =>
      have hPrepared := o.prepareCommand_of_assigned hFaults
        hAssigned token values
      have hAlike := h.alike_record device x.hardwareId
        (o.invocationEvent x.hardwareId token values)
      have hRecorded :=
        hReady.of_alike hAlike hReady.waiting
      have hDelivery := hRecorded.deliver ticket x.hardwareId
        (o.invocation (h.equipment.backend.eventId
          (h.equipment.backend.created + 1)) token values)
      cases hStep : (h.setBackend
          (h.equipment.backend.record device x.hardwareId
            (o.invocationEvent x.hardwareId token values))
          ).deliver none ticket x.hardwareId
            (o.invocation (h.equipment.backend.eventId
              (h.equipment.backend.created + 1)) token
              values) with
      | mk step h' =>
        rw [hStep] at hDelivery
        have hActOn := h.actOn_of_prepared hAction ticket x
          hPrepared (hVia ▸ hStep)
        cases step with
        | finished r =>
            exact .inl ⟨h', _, hActOn,
              hReady.acted_of_delivery hAssigned o token
                values rfl hDelivery⟩
        | waiting shipment =>
            refine .inr ⟨h', _, hActOn, ?_⟩
            cases hDelivery with
            | blocked _ hAt hFull =>
                exact ⟨rfl, hRecorded.blocked hAt hFull⟩

end Hub

end DeviceHub
