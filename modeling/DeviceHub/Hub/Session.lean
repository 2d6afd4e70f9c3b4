import DeviceHub.Hub.Calls
import DeviceHub.Run

/-
  The deliveries of a hub in use, with every order in which
  they can be asked for, wait and be served.

  A router can be given mappings, a default and destinations
  at any time.  Components are asked to do something, and
  commands are delivered, through the router or straight
  through a destination.  A delivery that waits at a
  transport is over once the transport serves it.  What the
  receivers of messages do, and what is in the storage, is up
  to the moves.

  What a delivery hands to the transports is seen by putting
  recorders in their places.

  Key definitions include:
    * `Hub.handsOver`
    * `Hub.register`
    * `DeliverySession`
    * `DeliveryMove`
    * `DeliveryNote`
    * `DeliverySession.step`
    * `DeliverySession.run`
-/

namespace DeviceHub

------------------------------------------------------------
-- Recorders
------------------------------------------------------------

/- A transport that takes every message and keeps it. -/
def Transport.recorder : Transport :=
  .scripted ⟨[], none, none⟩

namespace Destination

/- A destination with a recorder for its transport. -/
def recording
    (d : Destination) : Destination :=
  { d with transport := .recorder }

/- What a delivery hands to the transport. -/
def handsOver
    (d : Destination)
    (status : Status)
    (b : Backend)
    (hardwareId : String)
    (invocation : CommandInvocation) : List Outbound :=
  (d.recording.begin status b 0 hardwareId invocation
    ).2.transport.queue

end Destination

namespace Hub

/- A hub whose transports are recorders. -/
def recording
    (h : Hub) : Hub :=
  h.equip fun e => { e with
    destinations := e.destinations.map Destination.recording }

/- What a delivery hands to all transports together. -/
def handsOver
    (h : Hub)
    (via : Option Nat)
    (hardwareId : String)
    (invocation : CommandInvocation) : List Outbound :=
  let r := h.recording.deliver via 0 hardwareId invocation
  r.2.equipment.destinations.flatMap (·.transport.queue)

/- The place of the destination that a delivery gets to. -/
def placeFor?
    (h : Hub)
    (via : Option Nat)
    (hardwareId : String) : Option Nat :=
  let place :=
    match via with
    | some place => some place
    | none => (h.routeFor hardwareId).toOption
  place.filter (· < h.equipment.destinations.length)

------------------------------------------------------------
-- Configuring a Router
------------------------------------------------------------

/- Change the rules of choice. -/
def mapRouter
    (h : Hub)
    (f : Router → Router) : Hub :=
  h.equip fun e => { e with router := f e.router }

/- Add a component to those that the router owns. -/
def addBelowRouter
    (h : Hub)
    (child : Tree Part) : List (Tree Part) :=
  match Tree.visitFirst? (fun c => c.label = Part.router)
      (fun t => ((), t.addChild child)) h.forest with
  | some (_, forest) => forest
  | none => h.forest

/-
  Register a new destination with the router, which owns its
  component from then on.
-/
def register
    (h : Hub)
    (d : Destination) : Except CommandError Hub := do
  let place := h.equipment.destinations.length
  let router ← h.equipment.router.register d.id place
  return { h with
    forest :=
      h.addBelowRouter (Equipment.destinationTree place d)
    equipment := { h.equipment with
      router := router
      destinations := h.equipment.destinations ++ [d] } }

end Hub

------------------------------------------------------------
-- Sessions
------------------------------------------------------------

/-
  A delivery that was asked for: its ticket, the device and
  the command, the storage as it was then, and what was
  handed to a transport.
-/
structure DeliveryOrder where
  ticket : Nat
  hardwareId : String
  invocation : CommandInvocation
  backend : Backend
  sent : List Outbound

/- A hub, and the deliveries that wait at a transport. -/
structure DeliverySession where
  hub : Hub
  pending : List (DeliveryOrder × Shipment)

/- What can be done to a transport from outside. -/
inductive TransportEvent where
  | take (limit : Option Nat)
  | release
  | closeReceiver
  | rewrite (script : Script)

/- A transport after something was done to it. -/
def Transport.after
    (t : Transport) : TransportEvent → Transport
  | .take limit => (t.take limit).2
  | .release => t.release
  | .closeReceiver => t.closeReceiver
  | .rewrite script => t.withScript script

/- What can happen next. -/
inductive DeliveryMove where
  | map (specificationToken id : String)
  | fallBack (id : String)
  | register
      (id : String)
      (encoding : Encoding)
      (templates : Option TopicTemplates)
      (mode : Transport.Mode)
  | control
      (part : Part)
      (action : LifecycleAction)
  | store (b : Backend)
  | deliver
      (via : Option Nat)
      (hardwareId : String)
      (invocation : CommandInvocation)
  | serve (place : Nat)
  | handle
      (place : Nat)
      (event : TransportEvent)

/-
  What a move shows.  An answer comes with the place of the
  destination that the delivery got to.
-/
inductive DeliveryNote where
  | registered (id : String)
  | refused (e : CommandError)
  | controlled
      (part : Part)
      (action : LifecycleAction)
      (result : Except LifecycleError Status)
  | held
      (order : DeliveryOrder)
      (shipment : Shipment)
  | answered
      (order : DeliveryOrder)
      (place : Option Nat)
      (result : Except CommandError DeliveryReceipt)

/- A hub with a router that has no destinations. -/
def Hub.bare
    (b : Backend) : Hub :=
  { forest := [.leaf
      (.new .router Router.componentName .commandRouter)]
    equipment :=
      { registry := .standard
        backend := b
        pipelines := []
        destinations := []
        router := .new .empty none
        assets := .empty
        files := fun _ => .missing }
    engine := .new 0
    via := none
    calls := []
    nextTicket := 0 }

namespace DeliverySession

/- A session with a hub in which nothing has happened. -/
def new
    (h : Hub) : DeliverySession :=
  ⟨h, []⟩

/- The destination at a place. -/
def destination?
    (s : DeliverySession)
    (place : Nat) : Option Destination :=
  s.hub.equipment.destinations[place]?

/- Put the hub in place of the one that was. -/
def setHub
    (s : DeliverySession)
    (h : Hub) : DeliverySession :=
  { s with hub := h }

------------------------------------------------------------
-- Moves of Their Own
------------------------------------------------------------

/- Register a destination, unless its id is taken. -/
def register
    (s : DeliverySession)
    (d : Destination) :
    Option DeliveryNote × DeliverySession :=
  match s.hub.register d with
  | .error e => (some (.refused e), s)
  | .ok h => (some (.registered d.id), s.setHub h)

/- Ask a component to do something. -/
def control
    (s : DeliverySession)
    (part : Part)
    (action : LifecycleAction) :
    Option DeliveryNote × DeliverySession :=
  match s.hub.control part action with
  | none => (none, s)
  | some (result, h) =>
      (some (.controlled part action result), s.setHub h)

/- The delivery that is asked for next. -/
def order
    (s : DeliverySession)
    (via : Option Nat)
    (hardwareId : String)
    (invocation : CommandInvocation) : DeliveryOrder :=
  { ticket := s.hub.nextTicket
    hardwareId := hardwareId
    invocation := invocation
    backend := s.hub.equipment.backend
    sent := s.hub.handsOver via hardwareId invocation }

/- Deliver a command as far as a transport takes it. -/
def deliver
    (s : DeliverySession)
    (via : Option Nat)
    (hardwareId : String)
    (invocation : CommandInvocation) :
    Option DeliveryNote × DeliverySession :=
  let order := s.order via hardwareId invocation
  let place := s.hub.placeFor? via hardwareId
  let (step, h) :=
    s.hub.deliver via order.ticket hardwareId invocation
  let h := { h with nextTicket := order.ticket + 1 }
  match step with
  | .finished result =>
      (some (.answered order place result), s.setHub h)
  | .waiting shipment =>
      (some (.held order shipment),
        ⟨h, s.pending ++ [(order, shipment)]⟩)

/- Serve the delivery that has waited longest at a place. -/
def serve
    (s : DeliverySession)
    (place : Nat) : Option DeliveryNote × DeliverySession :=
  match s.destination? place with
  | none => (none, s)
  | some d =>
      match d.transport.serve? with
      | none => (none, s)
      | some (ticket, served, transport) =>
          match s.pending.find? (·.1.ticket = ticket) with
          | none => (none, s)
          | some (order, shipment) =>
              let (result, d) :=
                { d with transport := transport }.conclude
                  shipment.receipt
                  (served.mapError CommandError.delivery)
              (some (.answered order (some place) result),
                ⟨s.hub.equip (·.setDestination place d),
                  s.pending.filter (·.1.ticket != ticket)⟩)

/- Something is done to the transport at a place. -/
def handle
    (s : DeliverySession)
    (place : Nat)
    (event : TransportEvent) : DeliverySession :=
  match s.destination? place with
  | none => s
  | some d =>
      s.setHub (s.hub.equip (·.setDestination place
        { d with transport := d.transport.after event }))

------------------------------------------------------------
-- Moves
------------------------------------------------------------

/- Make a move. -/
def step
    (s : DeliverySession) :
    DeliveryMove → Option DeliveryNote × DeliverySession
  | .map token id =>
      (none, s.setHub (s.hub.mapRouter fun r =>
        { r with mappings := r.mappings.insert token id }))
  | .fallBack id =>
      (none, s.setHub (s.hub.mapRouter fun r =>
        { r with defaultDestination := some id }))
  | .register id encoding templates mode =>
      s.register (.new id encoding templates ⟨mode, [], []⟩)
  | .control part action => s.control part action
  | .store b => (none, s.setHub (s.hub.setBackend b))
  | .deliver via hardwareId invocation =>
      s.deliver via hardwareId invocation
  | .serve place => s.serve place
  | .handle place event => (none, s.handle place event)

/- Make moves one after the other; all notes, in order. -/
def run
    (s : DeliverySession)
    (moves : List DeliveryMove) :
    List DeliveryNote × DeliverySession :=
  runAll (fun s m => ((s.step m).1.toList, (s.step m).2)) s
    moves

/- What a destination has done so far, if there is one. -/
def metricsAt
    (s : DeliverySession)
    (place : Nat) : DestinationMetrics :=
  ((s.destination? place).map (·.metrics)).getD ⟨0, 0⟩

/- The messages that a transport holds. -/
def queueAt?
    (s : DeliverySession)
    (place : Nat) : Option (List Outbound) :=
  (s.destination? place).map (·.transport.queue)

end DeliverySession

------------------------------------------------------------
-- Counting Answers
------------------------------------------------------------

/- Whether an error says that something is not started. -/
def CommandError.isNotRunning : CommandError → Bool
  | notRunning _ => true
  | _ => false

namespace DeliveryNote

/- Whether a note answers well for a destination. -/
def delivers
    (place : Nat) : DeliveryNote → Bool
  | answered _ at? (.ok _) => at? = some place
  | _ => false

/-
  Whether a note answers badly for a destination, and not for
  the reason that it is not started.
-/
def fails
    (place : Nat) : DeliveryNote → Bool
  | answered _ at? (.error e) =>
      at? = some place && !e.isNotRunning
  | _ => false

end DeliveryNote

end DeviceHub
