import DeviceHub.Hub.Basic

/-
  The calls of a hub: beginning them, letting them go on,
  and giving their answers.

  A call goes on until it is answered or has to wait: for a
  transport, for a paused engine, or for an operation that
  another call holds.  Waiting calls are taken up again in
  order of arrival, until none of them can go on.  A run
  that rests goes on once its rest is over; rests end only
  while the hub waits for a call that can be asked for.

  Key definitions include:
    * `Hub.deliver`
    * `Hub.proceed`
    * `Hub.advance`
    * `Hub.settle`
    * `Request`
    * `Hub.reply`
    * `Hub.begin`
    * `Hub.join`
-/

namespace DeviceHub

namespace Hub

------------------------------------------------------------
-- Deliveries
------------------------------------------------------------

/- What became of a delivery so far. -/
inductive DeliveryStep where
  | finished (result : Except CommandError DeliveryReceipt)
  | waiting (shipment : Shipment)

/- Deliver through the destination at a place. -/
def deliverAt
    (h : Hub)
    (place : Nat)
    (ticket : Nat)
    (hardwareId : String)
    (invocation : CommandInvocation) : DeliveryStep × Hub :=
  match h.equipment.destinations[place]? with
  | none =>
      (.finished (.error (.unknownDestination "")), h)
  | some d =>
      let (progress, d) := d.begin
        (h.status (.destination place)) h.equipment.backend
        ticket hardwareId invocation
      let h := h.equip (·.setDestination place d)
      match progress with
      | .finished result => (.finished result, h)
      | .waiting receipt => (.waiting ⟨place, receipt⟩, h)

/- Find the destination for a device. -/
def routeFor
    (h : Hub)
    (hardwareId : String) : Except CommandError Nat := do
  if h.status .router = .started then
    let device ←
      Destination.findDevice h.equipment.backend hardwareId
    let (_, place) ← h.equipment.router.route device
    return place
  else
    .error (.notRunning Router.componentName)

/- Deliver through the router, or straight through `via`. -/
def deliver
    (h : Hub)
    (via : Option Nat)
    (ticket : Nat)
    (hardwareId : String)
    (invocation : CommandInvocation) : DeliveryStep × Hub :=
  match via with
  | some place =>
      h.deliverAt place ticket hardwareId invocation
  | none =>
      match h.routeFor hardwareId with
      | .error e => (.finished (.error e), h)
      | .ok place =>
          h.deliverAt place ticket hardwareId invocation

------------------------------------------------------------
-- Going On with a Call
------------------------------------------------------------

/- Bring the call with a ticket to a phase. -/
def setPhase
    (h : Hub)
    (ticket : Nat)
    (phase : CallPhase) : Hub :=
  { h with calls := h.calls.map fun c =>
    if c.ticket = ticket then { c with phase := phase }
    else c }

/- Note the result of a run's current element. -/
def settleElement
    (h : Hub)
    (ticket : Nat)
    (result : Except String (Dict String)) : Hub :=
  { h with engine := h.engine.settle h.now ticket result }

/- A delivery's result, with its error as a text. -/
def deliveryResult
    (result : Except CommandError DeliveryReceipt) :
    Except String DeliveryReceipt :=
  result.mapError CommandError.message

/-
  Carry out the action on a run's next element; the flag
  says whether the run can go on.
-/
def actOn
    (h : Hub)
    (ticket : Nat)
    (o : BatchOperation)
    (x : BatchElement) : Bool × Hub :=
  let (work, b) := o.act h.equipment.backend x.hardwareId
  let h := h.setBackend b
  match work with
  | .done result => (true, h.settleElement ticket result)
  | .deliver invocation metadata =>
      let (step, h) :=
        h.deliver h.via ticket x.hardwareId invocation
      match step with
      | .finished result =>
          (true, h.settleElement ticket
            (BatchOperation.delivered metadata
              (deliveryResult result)))
      | .waiting shipment =>
          (false, h.setPhase ticket
            (.processing (some (shipment, metadata))))

/- The operation that the run with a ticket works on. -/
def operationOf?
    (h : Hub)
    (ticket : Nat) : Option BatchOperation :=
  (h.engine.run? ticket).bind fun r =>
    h.engine.get? r.operationId

/- The next turn of a run, if rests are over or not. -/
def nextTurn
    (h : Hub)
    (rested : Bool)
    (ticket : Nat) : Turn × Hub :=
  let (next, engine) :=
    h.engine.turn (h.status .batch) ticket
  match next, rested with
  | .wait, true =>
      let (next, engine) := engine.wake ticket
      (next, { h with engine := engine })
  | next, _ => (next, { h with engine := engine })

/- End a run and answer its call. -/
def finishRun
    (h : Hub)
    (ticket : Nat) : Hub :=
  let (o, engine) := h.engine.finish h.now ticket
  let h := { h with engine := engine }
  match o with
  | some o => h.setPhase ticket (.answered (.batch (.ok o)))
  | none => h

/- Let a run go on, for at most so many turns. -/
def proceedRun
    (h : Hub)
    (rested : Bool)
    (ticket : Nat) : Nat → Hub
  | 0 => h
  | turns + 1 =>
      let (next, h) := h.nextTurn rested ticket
      match next, h.operationOf? ticket with
      | .act x, some o =>
          let (goesOn, h) := h.actOn ticket o x
          if goesOn then h.proceedRun rested ticket turns
          else h
      | .finish, _ => h.finishRun ticket
      | _, _ => h

/- Let a call go on as far as it can. -/
def proceed
    (h : Hub)
    (rested : Bool)
    (c : Call) : Hub :=
  match c.phase with
  | .processing none =>
      match h.operationOf? c.ticket with
      | some o =>
          h.proceedRun rested c.ticket (o.elements.length + 1)
      | none => h
  | _ => h

------------------------------------------------------------
-- Serving Transports
------------------------------------------------------------

/- The call that waited for a delivery learns its result. -/
def concludeCall
    (h : Hub)
    (c : Call)
    (result : Except CommandError DeliveryReceipt) : Hub :=
  match c.phase with
  | .delivering _ =>
      h.setPhase c.ticket (.answered (.delivery result))
  | .processing (some (_, metadata)) =>
      (h.settleElement c.ticket
        (BatchOperation.delivered metadata
          (deliveryResult result))).setPhase c.ticket
            (.processing none)
  | _ => h

/- Serve the message that waits longest at a destination. -/
def serveOne?
    (h : Hub)
    (place : Nat) : Option Hub := do
  let d ← h.equipment.destinations[place]?
  let (ticket, served, transport) ← d.transport.serve?
  let c ← h.calls.find? (·.ticket = ticket)
  let shipment ← c.shipment?
  let (result, d) :=
    { d with transport := transport }.conclude
      shipment.receipt (served.mapError CommandError.delivery)
  some ((h.equip (·.setDestination place d)).concludeCall c
    result)

/- Serve a destination, for at most so many messages. -/
def serve
    (h : Hub)
    (place : Nat) : Nat → Hub
  | 0 => h
  | n + 1 =>
      match h.serveOne? place with
      | some h => h.serve place n
      | none => h

/- Serve every destination. -/
def serveAll
    (h : Hub) : Hub :=
  (List.range h.equipment.destinations.length).foldl
    (fun h place => h.serve place h.calls.length) h

/- The call with a ticket as it stands. -/
def call?
    (h : Hub)
    (ticket : Nat) : Option Call :=
  h.calls.find? (·.ticket = ticket)

/- Let every call go on, in order of arrival. -/
def proceedAll
    (h : Hub)
    (rested : Bool) : Hub :=
  (h.calls.map (·.ticket)).foldl
    (fun h ticket =>
      match h.call? ticket with
      | some c => h.proceed rested c
      | none => h) h

/- Several rounds of serving and going on. -/
def rounds
    (h : Hub)
    (rested : Bool) : Nat → Hub
  | 0 => h
  | n + 1 => (h.serveAll.proceedAll rested).rounds rested n

/- Drop the calls that are over and have no name. -/
def dropUnnamed
    (h : Hub) : Hub :=
  { h with calls := h.calls.filter fun c =>
    c.name.isSome || !c.isAnswered }

/-
  Let all calls go on until none of them can.  Every round
  but the last answers a call or frees one.
-/
def advance
    (h : Hub)
    (rested : Bool) : Hub :=
  (h.rounds rested (h.calls.length + 2)).dropUnnamed

/- Whether there is a call that can be asked for. -/
def hasNamed
    (h : Hub) : Bool :=
  h.calls.any (·.name.isSome)

/-
  Let all calls go on, if there is one that can be asked
  for; without one a hub rests till the next call begins.
-/
def settle
    (h : Hub) : Hub :=
  if h.hasNamed then h.advance true else h

------------------------------------------------------------
-- Beginning a Call
------------------------------------------------------------

/- What a hub can be asked for. -/
inductive Request where
  | payload
      (place : Nat)
      (bytes : List UInt8)
      (context : Context)
  | deliver
      (via : Option Nat)
      (hardwareId : String)
      (invocation : CommandInvocation)
  | submit (request : BatchRequest)
  | run (request : BatchRequest)
  | process (operationId : String)

/- Take a payload at a pipeline. -/
def receive
    (h : Hub)
    (place : Nat)
    (bytes : List UInt8)
    (context : Context) :
    Except PipelineError PayloadReport × Hub :=
  match h.equipment.pipelines[place]? with
  | none => (.error (.notRunning ""), h)
  | some p =>
      let r := p.receive (h.status (.pipeline place))
        h.equipment.backend bytes context
      (r.result,
        (h.setBackend r.backend).equip
          (·.setPipeline place r.pipeline))

/- Submit a request to the batch engine. -/
def submit
    (h : Hub)
    (r : BatchRequest) : Except BatchError BatchOperation × Hub :=
  match h.engine.submit h.equipment.backend r with
  | .error e => (.error e, h)
  | .ok (o, engine) => (.ok o, { h with engine := engine })

/- Begin to process an operation. -/
def beginRun
    (h : Hub)
    (ticket : Nat)
    (operationId : String) : CallPhase × Hub :=
  match h.engine.process (h.status .batch) h.now ticket
      operationId with
  | .error e => (.answered (.batch (.error e)), h)
  | .ok engine =>
      (.processing none, { h with engine := engine })

/- The first phase of a call. -/
def firstPhase
    (h : Hub)
    (ticket : Nat) : Request → CallPhase × Hub
  | .payload place bytes context =>
      let (result, h) := h.receive place bytes context
      (.answered (.payload result), h)
  | .deliver via hardwareId invocation =>
      let (step, h) :=
        h.deliver via ticket hardwareId invocation
      match step with
      | .finished result => (.answered (.delivery result), h)
      | .waiting shipment => (.delivering shipment, h)
  | .submit r =>
      let (result, h) := h.submit r
      (.answered (.batch result), h)
  | .run r =>
      match h.submit r with
      | (.error e, h) => (.answered (.batch (.error e)), h)
      | (.ok o, h) => h.beginRun ticket o.id
  | .process id => h.beginRun ticket id

/- Take a name away from the call that has it. -/
def freeName
    (h : Hub)
    (name : String) : Hub :=
  { h with calls := h.calls.map fun c =>
    if c.name = some name then { c with name := none }
    else c }

/- The answer of the call with a name, which then ends. -/
def collect?
    (h : Hub)
    (name : String) : Option (Answer × Hub) :=
  match h.calls.find? (·.name == some name) with
  | some ⟨_, ticket, .answered answer⟩ =>
      some (answer, { h with
        calls := h.calls.filter (·.ticket != ticket) })
  | _ => none

/-
  The answer of the call with a name.  If there is none yet,
  rests end for it.
-/
def reply
    (h : Hub)
    (name : String) : Option Answer × Hub :=
  match h.collect? name with
  | some (answer, h) => (some answer, h.settle)
  | none =>
      let h := h.advance true
      match h.collect? name with
      | some (answer, h) => (some answer, h)
      | none => (none, h)

/-
  Begin a call under a name, which any other call loses.
  Calls that are there go on before the new one does.
  There is no answer yet if the call has to wait, and no
  rest ends before that.
-/
def begin
    (h : Hub)
    (name : String)
    (r : Request) : Option Answer × Hub :=
  let h := (h.freeName name).advance false
  let ticket := h.nextTicket
  let h := { h with nextTicket := ticket + 1 }
  let (phase, h) := h.firstPhase ticket r
  let call : Call := ⟨some name, ticket, phase⟩
  ({ h with calls := h.calls ++ [call] }.advance false
    ).reply name

/- Whether a call with a name waits for its answer. -/
def isWaiting
    (h : Hub)
    (name : String) : Bool :=
  h.calls.any (·.name == some name)

------------------------------------------------------------
-- Transports from Outside
------------------------------------------------------------

/- Do something to the transport at a place. -/
def handle
    {α : Type}
    (h : Hub)
    (place : Nat)
    (f : Transport → α × Transport) : Option (α × Hub) :=
  (h.equipment.destinations[place]?).map fun d =>
    let (a, transport) := f d.transport
    (a, (h.equip (·.setDestination place
      { d with transport := transport })).settle)

/- Ask a part to do something, then let all calls go on. -/
def call
    (h : Hub)
    (part : Part)
    (action : LifecycleAction) :
    Option (Except LifecycleError Status × Hub) :=
  (h.control part action).map fun r => (r.1, r.2.settle)

end Hub

end DeviceHub
