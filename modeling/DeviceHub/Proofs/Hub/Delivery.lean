import DeviceHub.Hub.Calls
import DeviceHub.Proofs.Delivery.Destination
import DeviceHub.Proofs.Dict

/-
  The delivery of one command through the router, over
  channels and a storage without faults.

  Whether a command gets through is decided by the devices,
  assignments and commands that are known, by the router, and
  by the destinations.  A delivery changes none of these; it
  adds its message to one channel, or changes no channel.

  Key definitions include:
    * `Hub.commandPlace?`
    * `Hub.Alike`
    * `Hub.Ready`
    * `Hub.Delivery`

  Main statements:
    * `Hub.commandPlace?_eq_some_iff`
    * `Hub.Alike.commandPlace?_eq`
    * `Hub.Alike.prepare_eq`
    * `Hub.Ready.deliver`
-/

------------------------------------------------------------
-- Recording a Command
------------------------------------------------------------

namespace DeviceHub

namespace Backend

/- The device with an id, if it is in use. -/
def assigned?
    (b : Backend)
    (hardwareId : String) : Option Device :=
  (b.store.devices.get? hardwareId).filter (·.isAssigned)

end Backend

namespace BatchOperation

variable {b : Backend}

/- A command for a device in use is recorded. -/
theorem prepareCommand_of_assigned
    (o : BatchOperation)
    (hFaults : b.faults = [])
    {d : Device}
    {hardwareId : String}
    (hAssigned : b.assigned? hardwareId = some d)
    (token : String)
    (values : Dict String) :
    o.prepareCommand b hardwareId token values =
      .ok (o.invocation (b.eventId (b.created + 1)) token
          values,
        b.record d hardwareId
          (o.invocationEvent hardwareId token values)) := by
  rcases Option.filter_eq_some_iff.1 hAssigned with
    ⟨hDevice, hInUse⟩
  simp [prepareCommand, checkAssigned, Backend.getDevice,
    Backend.guarded_eq hFaults, hDevice, hInUse,
    Backend.createEvent_eq hFaults hDevice,
    DeviceStore.stored]

/- For any other device nothing is recorded. -/
theorem prepareCommand_of_not_assigned
    (o : BatchOperation)
    (hFaults : b.faults = [])
    {hardwareId : String}
    (hAssigned : b.assigned? hardwareId = none)
    (token : String)
    (values : Dict String) :
    ∃ e, o.prepareCommand b hardwareId token values =
      .error e := by
  cases hDevice : b.store.devices.get? hardwareId with
  | none =>
      simp [prepareCommand, checkAssigned, Backend.getDevice,
        Backend.guarded_eq hFaults, hDevice]
  | some d =>
      have hIdle : d.isAssigned = false := by
        simpa [Backend.assigned?, hDevice] using hAssigned
      simp [prepareCommand, checkAssigned, Backend.getDevice,
        Backend.guarded_eq hFaults, hDevice, hIdle]

end BatchOperation

end DeviceHub

------------------------------------------------------------
-- Where a Command Goes
------------------------------------------------------------

namespace DeviceHub

namespace Hub

/-
  The place of the destination that a command for a device
  gets to.  The device has to be known and in use, and its
  assignment to exist; the command has to be defined and the
  values to be accepted; and the router has to find a
  destination that is started, has topics for the device and
  is open.
-/
def commandPlace?
    (h : Hub)
    (token : String)
    (values : Dict String)
    (hardwareId : String) : Option Nat := do
  let store := h.equipment.backend.store
  let device ← store.devices.get? hardwareId
  let assignment ← device.assignmentToken
  let _ ← store.assignments.get? assignment
  let command ← store.commands.get? token
  let _ ← (command.checkParameters values).toOption
  let (_, place) ←
    (h.equipment.router.route device).toOption
  let d ← h.equipment.destinations[place]?
  let _ ← (d.topicsFor device.hardwareId).toOption
  if h.status (.destination place) = .started ∧
      d.transport.isOpen = true then
    some place
  else
    none

/- What it takes for a command to get to a place. -/
theorem commandPlace?_eq_some_iff
    (h : Hub)
    (token : String)
    (values : Dict String)
    (hardwareId : String)
    (place : Nat) :
    h.commandPlace? token values hardwareId = some place ↔
      ∃ device assignment command id d,
        h.equipment.backend.store.devices.get? hardwareId =
          some device ∧
        device.assignmentToken = some assignment ∧
        (h.equipment.backend.store.assignments.get?
          assignment).isSome = true ∧
        h.equipment.backend.store.commands.get? token =
          some command ∧
        (∃ p, command.checkParameters values = .ok p) ∧
        h.equipment.router.route device = .ok (id, place) ∧
        h.equipment.destinations[place]? = some d ∧
        (∃ topics, d.topicsFor device.hardwareId =
          .ok topics) ∧
        h.status (.destination place) = .started ∧
        d.transport.isOpen = true := by
  simp only [commandPlace?, Option.bind_eq_bind,
    Option.bind_eq_some_iff, toOption_eq_some_iff,
    Option.ite_none_right_eq_some, Option.some.injEq]
  constructor
  · rintro ⟨device, hDevice, assignment, hToken, a,
      hAssignment, command, hCommand, p, hValues,
      ⟨id, place'⟩, hRoute, d, hPlace, topics, hTopics,
      ⟨hStarted, hOpen⟩, rfl⟩
    exact ⟨device, assignment, command, id, d, hDevice,
      hToken, Option.isSome_iff_exists.2 ⟨a, hAssignment⟩,
      hCommand, ⟨p, hValues⟩, hRoute, hPlace,
      ⟨topics, hTopics⟩, hStarted, hOpen⟩
  · rintro ⟨device, assignment, command, id, d, hDevice,
      hToken, hAssignment, hCommand, ⟨p, hValues⟩, hRoute,
      hPlace, ⟨topics, hTopics⟩, hStarted, hOpen⟩
    rcases Option.isSome_iff_exists.1 hAssignment with
      ⟨a, hAssignment⟩
    exact ⟨device, hDevice, assignment, hToken, a,
      hAssignment, command, hCommand, p, hValues,
      (id, place), hRoute, d, hPlace, topics, hTopics,
      ⟨hStarted, hOpen⟩, rfl⟩

end Hub

end DeviceHub

------------------------------------------------------------
-- Hubs That Deliver Alike
------------------------------------------------------------

namespace DeviceHub

namespace Hub

/-
  Hubs that agree on all that decides about deliveries over
  channels.  They may differ in their events, in the messages
  of their channels and in what they have counted.
-/
structure Alike
    (h' h : Hub) : Prop where
  forest : h'.forest = h.forest
  via : h'.via = h.via
  router : h'.equipment.router = h.equipment.router
  setups : h'.equipment.destinations.map Destination.setup =
    h.equipment.destinations.map Destination.setup
  devices : h'.equipment.backend.store.devices =
    h.equipment.backend.store.devices
  assignments : h'.equipment.backend.store.assignments =
    h.equipment.backend.store.assignments
  commands : h'.equipment.backend.store.commands =
    h.equipment.backend.store.commands
  groups : h'.equipment.backend.store.groups =
    h.equipment.backend.store.groups
  faults : h'.equipment.backend.faults =
    h.equipment.backend.faults
  clock : h'.now = h.now
  ids : h'.equipment.backend.eventId =
    h.equipment.backend.eventId

namespace Alike

variable {h h' h'' : Hub}

theorem refl
    (h : Hub) :
    h.Alike h :=
  ⟨rfl, rfl, rfl, rfl, rfl, rfl, rfl, rfl, rfl, rfl, rfl⟩

theorem trans
    (hSecond : h''.Alike h')
    (hFirst : h'.Alike h) :
    h''.Alike h where
  forest := hSecond.forest.trans hFirst.forest
  via := hSecond.via.trans hFirst.via
  router := hSecond.router.trans hFirst.router
  setups := hSecond.setups.trans hFirst.setups
  devices := hSecond.devices.trans hFirst.devices
  assignments :=
    hSecond.assignments.trans hFirst.assignments
  commands := hSecond.commands.trans hFirst.commands
  groups := hSecond.groups.trans hFirst.groups
  faults := hSecond.faults.trans hFirst.faults
  clock := hSecond.clock.trans hFirst.clock
  ids := hSecond.ids.trans hFirst.ids

variable (hAlike : h'.Alike h)

include hAlike

/- Every part stands where it stood. -/
theorem status_eq
    (part : Part) :
    h'.status part = h.status part := by
  simp [status, tree?, hAlike.forest]

/- The same devices are in use. -/
theorem assigned?_eq
    (hardwareId : String) :
    h'.equipment.backend.assigned? hardwareId =
      h.equipment.backend.assigned? hardwareId := by
  simp [Backend.assigned?, hAlike.devices]

/- The destination at a place has the setup it had. -/
theorem setup_eq
    (place : Nat) :
    (h'.equipment.destinations[place]?).map
        Destination.setup =
      (h.equipment.destinations[place]?).map
        Destination.setup := by
  rw [← List.getElem?_map, ← List.getElem?_map,
    hAlike.setups]

/- A destination is where there was one like it. -/
theorem exists_destination
    {place : Nat}
    {d : Destination}
    (hPlace : h.equipment.destinations[place]? = some d) :
    ∃ d', h'.equipment.destinations[place]? = some d' ∧
      d'.setup = d.setup := by
  have hSetup := hAlike.setup_eq place
  rw [hPlace, Option.map_some] at hSetup
  exact Option.map_eq_some_iff.1 hSetup

/- The same messages can be prepared. -/
theorem prepare_eq
    {d d' : Destination}
    (hSetup : d'.setup = d.setup)
    (hardwareId : String)
    (i : CommandInvocation) :
    d'.prepare h'.equipment.backend hardwareId i =
      d.prepare h.equipment.backend hardwareId i := by
  simp only [Destination.setup, Prod.mk.injEq] at hSetup
  rcases hSetup with ⟨-, hEncoding, hTemplates, -⟩
  simp only [Destination.prepare, Destination.resolve,
    Destination.findDevice, Destination.findAssignment,
    Destination.findCommand, Destination.topicsFor,
    Backend.getDevice, Backend.getAssignment,
    Backend.getCommand, Backend.guarded, hAlike.faults,
    hAlike.devices, hAlike.assignments, hAlike.commands,
    hEncoding, hTemplates]

/- A destination prepares the messages that it did. -/
theorem prepare_at
    {place : Nat}
    {d d' : Destination}
    (hAt : h.equipment.destinations[place]? = some d)
    (hAt' : h'.equipment.destinations[place]? = some d')
    (hardwareId : String)
    (i : CommandInvocation) :
    d'.prepare h'.equipment.backend hardwareId i =
      d.prepare h.equipment.backend hardwareId i := by
  rcases hAlike.exists_destination hAt with ⟨e, he, hSetup⟩
  rw [hAt', Option.some.injEq] at he
  exact hAlike.prepare_eq (he ▸ hSetup) hardwareId i

omit hAlike in
theorem symm
    (hAlike : h'.Alike h) :
    h.Alike h' where
  forest := hAlike.forest.symm
  via := hAlike.via.symm
  router := hAlike.router.symm
  setups := hAlike.setups.symm
  devices := hAlike.devices.symm
  assignments := hAlike.assignments.symm
  commands := hAlike.commands.symm
  groups := hAlike.groups.symm
  faults := hAlike.faults.symm
  clock := hAlike.clock.symm
  ids := hAlike.ids.symm

/- A command that gets to a place does so in both hubs. -/
theorem commandPlace?_of_eq_some
    {token : String}
    {values : Dict String}
    {hardwareId : String}
    {place : Nat}
    (hPlace : h.commandPlace? token values hardwareId =
      some place) :
    h'.commandPlace? token values hardwareId =
      some place := by
  rw [commandPlace?_eq_some_iff] at hPlace ⊢
  rcases hPlace with
    ⟨device, assignment, command, id, d, hDevice, hToken,
      hAssignment, hCommand, hValues, hRoute, hAt, hTopics,
      hStarted, hOpen⟩
  rcases hAlike.exists_destination hAt with ⟨d', hAt', hSetup⟩
  simp only [Destination.setup, Prod.mk.injEq] at hSetup
  rcases hSetup with ⟨-, -, hTemplates, hMode⟩
  refine ⟨device, assignment, command, id, d', ?_, hToken,
    ?_, ?_, hValues, ?_, hAt', ?_, ?_, ?_⟩
  · rw [hAlike.devices]
    exact hDevice
  · rw [hAlike.assignments]
    exact hAssignment
  · rw [hAlike.commands]
    exact hCommand
  · rw [hAlike.router]
    exact hRoute
  · simpa [Destination.topicsFor, hTemplates] using hTopics
  · rw [hAlike.status_eq]
    exact hStarted
  · simpa [Transport.isOpen, hMode] using hOpen

/- Commands get to the same places. -/
theorem commandPlace?_eq
    (token : String)
    (values : Dict String)
    (hardwareId : String) :
    h'.commandPlace? token values hardwareId =
      h.commandPlace? token values hardwareId := by
  refine Option.ext ?_
  intro place
  exact ⟨hAlike.symm.commandPlace?_of_eq_some,
    hAlike.commandPlace?_of_eq_some⟩

end Alike

------------------------------------------------------------
-- Changes of Equipment
------------------------------------------------------------

/- Keeping an event leaves deliveries as they are. -/
theorem alike_record
    (h : Hub)
    (d : Device)
    (hardwareId : String)
    (e : DecodedEvent) :
    (h.setBackend
      (h.equipment.backend.record d hardwareId e)).Alike h :=
  ⟨rfl, rfl, rfl, rfl, rfl, rfl, rfl, rfl, rfl, rfl, rfl⟩

/- So does a destination of the same setup in its place. -/
theorem alike_setDestination
    {h : Hub}
    {place : Nat}
    {d d' : Destination}
    (hPlace : h.equipment.destinations[place]? = some d)
    (hSetup : d'.setup = d.setup) :
    (h.equip (·.setDestination place d')).Alike h := by
  refine ⟨rfl, rfl, rfl, ?_, rfl, rfl, rfl, rfl, rfl, rfl,
    rfl⟩
  refine List.ext_getElem? ?_
  intro i
  simp only [equip, Equipment.setDestination,
    List.getElem?_map, List.getElem?_set]
  by_cases hi : place = i
  · subst hi
    rcases List.getElem?_eq_some_iff.1 hPlace with
      ⟨hLength, hEq⟩
    simp [hLength, hEq, hSetup]
  · simp [hi]

/- The destination put in a place, and all the others. -/
theorem getElem?_setDestination
    {h : Hub}
    {place : Nat}
    {d : Destination}
    (hPlace : h.equipment.destinations[place]? = some d)
    (d' : Destination)
    (i : Nat) :
    (h.equip (·.setDestination place d')
      ).equipment.destinations[i]? =
      if i = place then some d'
      else h.equipment.destinations[i]? := by
  have hLength := (List.getElem?_eq_some_iff.1 hPlace).1
  simp only [equip, Equipment.setDestination,
    List.getElem?_set]
  by_cases hi : i = place
  · subst hi
    simp [hLength]
  · simp [hi, Ne.symm hi]

------------------------------------------------------------
-- Delivering
------------------------------------------------------------

/-
  Deliveries over channels through a started router, in a
  storage without faults, with no message waiting.
-/
structure Ready
    (h : Hub) : Prop where
  faults : h.equipment.backend.faults = []
  router : h.status .router = .started
  channels : ∀ d ∈ h.equipment.destinations,
    ∃ capacity isOpen,
      d.transport.mode = .channel capacity isOpen
  waiting : ∀ d ∈ h.equipment.destinations,
    d.transport.waiting = []

/- What became of a command that was to be delivered. -/
inductive Delivery
    (h : Hub)
    (i : CommandInvocation)
    (hardwareId : String) :
    DeliveryStep × Hub → Prop where
  | refused
      (e : CommandError)
      (hPlace : h.commandPlace? i.commandToken
        i.parameterValues hardwareId = none) :
      Delivery h i hardwareId (.finished (.error e), h)
  | failed
      (e : CommandError)
      {place : Nat}
      {d d' : Destination}
      (hPlace : h.commandPlace? i.commandToken
        i.parameterValues hardwareId = none)
      (hAt : h.equipment.destinations[place]? = some d)
      (hSetup : d'.setup = d.setup)
      (hTransport : d'.transport = d.transport) :
      Delivery h i hardwareId
        (.finished (.error e),
          h.equip (·.setDestination place d'))
  | sent
      (receipt : DeliveryReceipt)
      {place : Nat}
      {d d' : Destination}
      {m : Outbound}
      (hPlace : h.commandPlace? i.commandToken
        i.parameterValues hardwareId = some place)
      (hAt : h.equipment.destinations[place]? = some d)
      (hSetup : d'.setup = d.setup)
      (hPrepared : d.prepare h.equipment.backend hardwareId
        i = .ok m)
      (hTransport : d'.transport = d.transport.push m) :
      Delivery h i hardwareId
        (.finished (.ok receipt),
          h.equip (·.setDestination place d'))
  | blocked
      (shipment : Shipment)
      {d d' : Destination}
      (hAt : h.equipment.destinations[shipment.place]? =
        some d)
      (hFull : d'.transport.isFull = true) :
      Delivery h i hardwareId
        (.waiting shipment,
          h.equip (·.setDestination shipment.place d'))

/-
  Where the router finds a place, a command gets there if
  the destination is started and open and can prepare it.
-/
theorem commandPlace?_of_route
    {h : Hub}
    (hFaults : h.equipment.backend.faults = [])
    {hardwareId id : String}
    {device : Device}
    {place : Nat}
    (hDevice : h.equipment.backend.store.devices.get?
      hardwareId = some device)
    (hRoute : h.equipment.router.route device =
      .ok (id, place))
    (i : CommandInvocation)
    (other : Nat) :
    h.commandPlace? i.commandToken i.parameterValues
        hardwareId = some other ↔
      other = place ∧ ∃ d,
        h.equipment.destinations[place]? = some d ∧
        h.status (.destination place) = .started ∧
        d.transport.isOpen = true ∧
        ∃ m, d.prepare h.equipment.backend hardwareId i =
          .ok m := by
  rw [commandPlace?_eq_some_iff]
  constructor
  · rintro ⟨device', assignment, command, id', d, hDevice',
      hToken, hAssignment, hCommand, hValues, hRoute', hAt,
      hTopics, hStarted, hOpen⟩
    rw [hDevice, Option.some.injEq] at hDevice'
    subst hDevice'
    rw [hRoute, Except.ok.injEq, Prod.mk.injEq] at hRoute'
    rcases hRoute' with ⟨-, rfl⟩
    refine ⟨rfl, d, hAt, hStarted, hOpen, ?_⟩
    exact (d.prepare_ok_iff hFaults hardwareId i).2
      ⟨device, assignment, command, hDevice, hToken,
        hAssignment, hCommand, hValues, hTopics⟩
  · rintro ⟨rfl, d, hAt, hStarted, hOpen, hPrepared⟩
    rcases (d.prepare_ok_iff hFaults hardwareId i).1 hPrepared
      with
        ⟨device', assignment, command, hDevice', hToken,
          hAssignment, hCommand, hValues, hTopics⟩
    rw [hDevice, Option.some.injEq] at hDevice'
    subst hDevice'
    exact ⟨device, assignment, command, id, d, hDevice,
      hToken, hAssignment, hCommand, hValues, hRoute, hAt,
      hTopics, hStarted, hOpen⟩

/- The destination that the router finds gets the command. -/
theorem Ready.deliverAt
    {h : Hub}
    (hReady : h.Ready)
    {hardwareId id : String}
    {device : Device}
    {place : Nat}
    (hDevice : h.equipment.backend.store.devices.get?
      hardwareId = some device)
    (hRoute : h.equipment.router.route device =
      .ok (id, place))
    (ticket : Nat)
    (i : CommandInvocation) :
    Delivery h i hardwareId
      (h.deliverAt place ticket hardwareId i) := by
  have hPlaces := commandPlace?_of_route hReady.faults
    hDevice hRoute i
  unfold Hub.deliverAt
  cases hAt : h.equipment.destinations[place]? with
  | none =>
      refine .refused _ (Option.eq_none_iff_forall_ne_some.2
        ?_)
      intro other hPlace
      rcases (hPlaces other).1 hPlace with ⟨-, d, hAt', -⟩
      rw [hAt] at hAt'
      cases hAt'
  | some d =>
      -- Where the destination fails, it gets nothing.
      have hNone : (h.status (.destination place) = .started →
          d.transport.isOpen = true →
          ∀ m, d.prepare h.equipment.backend hardwareId i ≠
            .ok m) →
          h.commandPlace? i.commandToken i.parameterValues
            hardwareId = none := by
        intro hFails
        refine Option.eq_none_iff_forall_ne_some.2 ?_
        intro other hPlace
        rcases (hPlaces other).1 hPlace with
          ⟨-, d', hAt', hStarted, hOpen, m, hPrepared⟩
        rw [hAt, Option.some.injEq] at hAt'
        subst hAt'
        exact hFails hStarted hOpen m hPrepared
      have hMem := List.mem_of_getElem? hAt
      rcases hReady.channels d hMem with
        ⟨capacity, isOpen, hMode⟩
      have hWaiting := hReady.waiting d hMem
      dsimp only [Destination.begin]
      by_cases hStarted :
          h.status (.destination place) = .started
      · rw [if_pos hStarted]
        cases hPrepared : d.prepare h.equipment.backend
            hardwareId i with
        | error e =>
            refine .failed _ (hNone ?_) hAt rfl rfl
            intro _ _ m hOk
            rw [hPrepared] at hOk
            cases hOk
        | ok m =>
            rcases Transport.offer_cases hMode hWaiting
              ticket m with ⟨hClosed, hOffer⟩ |
                ⟨hOpen, hOffer | ⟨hOffer, hFull⟩⟩
            · simp only [hOffer]
              refine .failed _ (hNone ?_) hAt rfl rfl
              intro _ hOpen
              rw [hClosed] at hOpen
              cases hOpen
            · simp only [hOffer]
              have hPlace := (hPlaces place).2 ⟨rfl, d, hAt,
                hStarted, hOpen, m, hPrepared⟩
              exact .sent _ hPlace hAt rfl hPrepared rfl
            · simp only [hOffer]
              exact .blocked ⟨place, _⟩ hAt hFull
      · rw [if_neg hStarted]
        refine .failed _ (hNone ?_) hAt rfl rfl
        intro hStarted'
        exact absurd hStarted' hStarted

/- Any command is delivered, refused or blocked. -/
theorem Ready.deliver
    {h : Hub}
    (hReady : h.Ready)
    (ticket : Nat)
    (hardwareId : String)
    (i : CommandInvocation) :
    Delivery h i hardwareId
      (h.deliver none ticket hardwareId i) := by
  cases hDevice : h.equipment.backend.store.devices.get?
      hardwareId with
  | none =>
      have hRoute : h.routeFor hardwareId =
          .error (.unknownDevice hardwareId) := by
        simp [routeFor, hReady.router,
          Destination.findDevice, Backend.getDevice,
          Backend.guarded_eq hReady.faults, hDevice]
      simp only [Hub.deliver, hRoute]
      refine .refused _ ?_
      simp [commandPlace?, hDevice]
  | some device =>
      have hFound := (Destination.findDevice_ok_iff
        hReady.faults).2 hDevice
      cases hRouted : h.equipment.router.route device with
      | error e =>
          have hRoute : h.routeFor hardwareId = .error e := by
            simp [routeFor, hReady.router, hFound, hRouted]
          simp only [Hub.deliver, hRoute]
          refine .refused _ ?_
          simp [commandPlace?, hDevice, hRouted,
            Except.toOption]
      | ok found =>
          rcases found with ⟨id, place⟩
          have hRoute : h.routeFor hardwareId = .ok place := by
            simp [routeFor, hReady.router, hFound, hRouted]
          simp only [Hub.deliver, hRoute]
          exact hReady.deliverAt hDevice hRouted ticket i

end Hub

end DeviceHub
