import DeviceHub.Batch.Operation
import DeviceHub.Lifecycle.Tree

/-
  The batch engine: it keeps operations and the calls that
  are processing them.

  One call at a time holds an operation; others wait for it
  in order of arrival.  The holder works on the elements
  that were unprocessed when it got hold.  Before each it
  waits while the engine is paused and gives up if the
  engine is not started; between two it may rest.  Every
  result is written back at once.

  Key definitions include:
    * `BatchRun`
    * `BatchEngine`
    * `BatchEngine.accept`
    * `BatchEngine.submit`
    * `BatchEngine.process`
    * `BatchEngine.turn`
    * `BatchEngine.wake`
    * `BatchEngine.settle`
    * `BatchEngine.finish`
    * `BatchEngine.remove`
-/

namespace DeviceHub

------------------------------------------------------------
-- Runs
------------------------------------------------------------

/- How far a call that processes an operation has come. -/
inductive RunPhase where
  | queued
  | gate
      (left : List BatchElement)
      (first : Bool)
  | resting
      (next : BatchElement)
      (left : List BatchElement)
  | acting
      (current : BatchElement)
      (left : List BatchElement)
  deriving Inhabited

/- A call that processes an operation, under a ticket. -/
structure BatchRun where
  ticket : Nat
  operationId : String
  phase : RunPhase
  deriving Inhabited

/- What a run does next. -/
inductive Turn where
  | wait
  | act (element : BatchElement)
  | finish

/- An operation, who holds it, and who waits for it. -/
structure TrackedOperation where
  operation : BatchOperation
  holder : Option Nat
  waiting : List Nat
  deriving Inhabited

/-
  The state of the engine: its rest between elements in
  milliseconds, its operations and runs, and how many ids it
  has made up.
-/
structure BatchEngine where
  throttle : Nat
  operations : Dict TrackedOperation
  runs : List BatchRun
  generated : Nat
  deriving Inhabited

namespace BatchEngine

/- The name of the component. -/
def componentName : String :=
  "batch-operations"

/- An engine without operations. -/
def new
    (throttle : Nat) : BatchEngine :=
  ⟨throttle, .empty, [], 0⟩

------------------------------------------------------------
-- Operations
------------------------------------------------------------

/- The id that a request asks for, unless it is blank. -/
def requestedId?
    (r : BatchRequest) : Option String :=
  r.id.filter (!Text.isBlank ·)

/- The next id of the engine's own making. -/
def generatedId
    (e : BatchEngine) : String :=
  s!"gen-{e.generated + 1}"

/- Keep a new operation. -/
def insert
    (e : BatchEngine)
    (o : BatchOperation) : BatchEngine :=
  { e with operations :=
    e.operations.insert o.id ⟨o, none, []⟩ }

/-
  The id of a request's operation, if `made` is the one that
  the engine makes up.
-/
def operationId
    (r : BatchRequest)
    (made : String) : String :=
  (requestedId? r).getD made

/- Refuse an id that is taken. -/
def checkFree
    (e : BatchEngine)
    (id : String) : Except BatchError Unit :=
  if e.operations.contains id then
    .error (.duplicateOperation id)
  else
    .ok ()

/-
  Keep the operation of a request once its devices are
  known.  Its id may have been taken in the meantime.
-/
def accept
    (e : BatchEngine)
    (r : BatchRequest)
    (id : String)
    (hardwareIds : List String)
    (now : Instant) :
    Except BatchError (BatchOperation × BatchEngine) := do
  e.checkFree id
  let o := BatchOperation.ofRequest r id hardwareIds now
  return (o, e.insert o)

/- Count the id of a request if the engine made it up. -/
def countMade
    (e : BatchEngine)
    (r : BatchRequest) : BatchEngine :=
  if (requestedId? r).isSome then e
  else { e with generated := e.generated + 1 }

/-
  Make an operation of a request.  An id that is taken is
  refused before the targets are looked at.
-/
def submit
    (e : BatchEngine)
    (b : Backend)
    (r : BatchRequest) :
    Except BatchError (BatchOperation × BatchEngine) := do
  let id := operationId r e.generatedId
  e.checkFree id
  let hardwareIds ← r.targets.resolve b
  let (o, e) ← e.accept r id hardwareIds b.now
  return (o, e.countMade r)

/- An operation as it stands. -/
def get?
    (e : BatchEngine)
    (id : String) : Option BatchOperation :=
  (e.operations.get? id).map (·.operation)

/- The ids of all operations, in order. -/
def operationIds
    (e : BatchEngine) : List String :=
  e.operations.keys

/- Give up an operation that is finished and not held. -/
def remove
    (e : BatchEngine)
    (id : String) :
    Except BatchError (BatchOperation × BatchEngine) :=
  match e.operations.get? id with
  | none => .error (.unknownOperation id)
  | some t =>
      if t.holder.isSome || !t.operation.isFinished then
        .error (.operationInProgress id)
      else
        .ok (t.operation,
          { e with operations := e.operations.erase id })

------------------------------------------------------------
-- Getting Hold of an Operation
------------------------------------------------------------

/- Whether the engine takes calls in a status. -/
def isRunning
    (status : Status) : Bool :=
  status = .started || status.isPausing

/- Change an operation that is kept. -/
def update
    (e : BatchEngine)
    (id : String)
    (f : TrackedOperation → TrackedOperation) : BatchEngine :=
  match e.operations.get? id with
  | some t =>
      { e with operations := e.operations.insert id (f t) }
  | none => e

/- The run with a ticket. -/
def run?
    (e : BatchEngine)
    (ticket : Nat) : Option BatchRun :=
  e.runs.find? (·.ticket = ticket)

/- Bring a run to a phase. -/
def setPhase
    (e : BatchEngine)
    (ticket : Nat)
    (phase : RunPhase) : BatchEngine :=
  { e with runs := e.runs.map fun r =>
    if r.ticket = ticket then { r with phase := phase }
    else r }

/-
  A run gets hold of an operation: the beginning is noted,
  and the elements to be processed are settled.
-/
def acquire
    (e : BatchEngine)
    (now : Instant)
    (ticket : Nat)
    (id : String) : BatchEngine :=
  match e.operations.get? id with
  | none => e
  | some t =>
      let o := t.operation.markStarted now
      let e := e.update id fun t =>
        { t with operation := o, holder := some ticket }
      e.setPhase ticket (.gate o.remaining true)

/- Make a run that has not got hold of its operation yet. -/
def enroll
    (e : BatchEngine)
    (ticket : Nat)
    (id : String) : BatchEngine :=
  { e with runs := e.runs ++ [⟨ticket, id, .queued⟩] }

/- Begin to process an operation under a new ticket. -/
def process
    (e : BatchEngine)
    (status : Status)
    (now : Instant)
    (ticket : Nat)
    (id : String) : Except BatchError BatchEngine :=
  if !isRunning status then
    .error (.notRunning componentName)
  else
    match e.operations.get? id with
    | none => .error (.unknownOperation id)
    | some t =>
        let e := e.enroll ticket id
        if t.holder.isNone then
          .ok (e.acquire now ticket id)
        else
          .ok (e.update id fun t =>
            { t with waiting := t.waiting ++ [ticket] })

------------------------------------------------------------
-- Elements
------------------------------------------------------------

/- What a phase leads to in a status of the engine. -/
def nextPhase
    (throttle : Nat)
    (status : Status) : RunPhase → Turn × RunPhase
  | .gate [] first => (.finish, .gate [] first)
  | .gate (x :: left) first =>
      if status.isPausing then
        (.wait, .gate (x :: left) first)
      else if status != .started then
        (.finish, .gate (x :: left) first)
      else if first || throttle == 0 then
        (.act x, .acting x left)
      else
        (.wait, .resting x left)
  | phase => (.wait, phase)

/- Let a run go on as far as the status allows. -/
def turn
    (e : BatchEngine)
    (status : Status)
    (ticket : Nat) : Turn × BatchEngine :=
  match e.run? ticket with
  | none => (.wait, e)
  | some r =>
      let (next, phase) := nextPhase e.throttle status r.phase
      (next, e.setPhase ticket phase)

/- A run that rested begins its next element. -/
def wake
    (e : BatchEngine)
    (ticket : Nat) : Turn × BatchEngine :=
  match e.run? ticket with
  | some ⟨_, _, .resting x left⟩ =>
      (.act x, e.setPhase ticket (.acting x left))
  | _ => (.wait, e)

/- The action of a run's element has ended. -/
def settle
    (e : BatchEngine)
    (now : Instant)
    (ticket : Nat)
    (result : Except String (Dict String)) : BatchEngine :=
  match e.run? ticket with
  | some ⟨_, id, .acting x left⟩ =>
      let e := e.update id fun t =>
        { t with operation :=
          t.operation.settle x.index now result }
      e.setPhase ticket (.gate left false)
  | _ => e

------------------------------------------------------------
-- Letting Go
------------------------------------------------------------

/- Forget a run. -/
def forget
    (e : BatchEngine)
    (ticket : Nat) : BatchEngine :=
  { e with runs := e.runs.filter (·.ticket != ticket) }

/- Pass an operation on to the one that waits longest. -/
def handOver
    (e : BatchEngine)
    (now : Instant)
    (id : String) : BatchEngine :=
  match e.operations.get? id with
  | none => e
  | some t =>
      match t.waiting with
      | [] => e.update id fun t => { t with holder := none }
      | next :: rest =>
          (e.update id fun t => { t with waiting := rest
            }).acquire now next id

/- A run ends and answers with its operation. -/
def finish
    (e : BatchEngine)
    (now : Instant)
    (ticket : Nat) : Option BatchOperation × BatchEngine :=
  match e.run? ticket with
  | none => (none, e)
  | some r =>
      let e := e.update r.operationId fun t =>
        { t with operation := t.operation.markEnded now }
      (e.get? r.operationId,
        (e.forget ticket).handOver now r.operationId)

end BatchEngine

end DeviceHub
