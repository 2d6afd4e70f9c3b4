import DeviceHub.Batch.Engine
import DeviceHub.Run

/-
  The batch engine in use, with every order in which its
  calls can take their steps.

  A call works on its own between two waits: for the devices
  of a submission, for an operation that another call holds,
  for a paused engine, for the end of a rest, for the action
  on an element.  A move is what one call does from one wait
  to the next, or what is done to the engine as a component.
  Whose move is next, what the storage and the deliveries
  answer, and what time it is belong to the move.

  Key definitions include:
    * `BatchSession`
    * `BatchMove`
    * `BatchNote`
    * `BatchSession.step`
    * `BatchSession.run`
    * `BatchNote.story`
-/

namespace DeviceHub

------------------------------------------------------------
-- Sessions
------------------------------------------------------------

/- A submission that waits for its devices to be named. -/
structure Submission where
  ticket : Nat
  id : String
  request : BatchRequest

/-
  An engine, its component with any below it, and the
  submissions under way.  Every call has a ticket.
-/
structure BatchSession (κ : Type) where
  engine : BatchEngine
  component : Tree κ
  submissions : List Submission
  nextTicket : Nat

/-
  What can happen next.  `made` is an id that the engine
  makes up, `answer` is what the storage answers to a search
  and `result` what becomes of an element's action.  The
  component changes with a whole call of its own, or within
  one that is still under way.
-/
inductive BatchMove (κ : Type) where
  | submit
      (request : BatchRequest)
      (made : String)
  | resolve
      (ticket : Nat)
      (answer : Except StoreError (List Device))
      (now : Instant)
  | process
      (id : String)
      (now : Instant)
  | turn
      (ticket : Nat)
      (now : Instant)
  | wake (ticket : Nat)
  | settle
      (ticket : Nat)
      (now : Instant)
      (result : Except String (Dict String))
  | get (id : String)
  | remove (id : String)
  | control
      (hooks : Hooks κ Unit)
      (action : LifecycleAction)
  | change
      (status : Status)
      (reason : String)

/- What a move shows to those around the engine. -/
inductive BatchNote where
  | created (o : BatchOperation)
  | removed (o : BatchOperation)
  | refused (e : BatchError)
  | began
      (ticket : Nat)
      (id : String)
      (element : BatchElement)
      (status : Status)
  | ended
      (ticket : Nat)
      (id : String)
      (index : Nat)
      (now : Instant)
      (result : Except String (Dict String))
  | answered
      (ticket : Nat)
      (id : String)
      (o : BatchOperation)
  | shown
      (id : String)
      (o : Option BatchOperation)
  | controlled
      (action : LifecycleAction)
      (result : Except LifecycleError Status)

namespace BatchSession

variable {κ : Type}

/- A session in which nothing has happened. -/
def new
    (throttle : Nat)
    (component : Tree κ) : BatchSession κ :=
  ⟨.new throttle, component, [], 0⟩

/- Where the engine stands as a component. -/
def status
    (s : BatchSession κ) : Status :=
  s.component.status

/- An operation as it is kept. -/
def get?
    (s : BatchSession κ)
    (id : String) : Option BatchOperation :=
  s.engine.get? id

------------------------------------------------------------
-- Submissions
------------------------------------------------------------

/- Take a submission on, unless its id is taken. -/
def submit
    (s : BatchSession κ)
    (r : BatchRequest)
    (made : String) : Option BatchNote × BatchSession κ :=
  let id := BatchEngine.operationId r made
  match s.engine.checkFree id with
  | .error e => (some (.refused e), s)
  | .ok _ =>
      (none, { s with
        submissions :=
          s.submissions ++ [⟨s.nextTicket, id, r⟩]
        nextTicket := s.nextTicket + 1 })

/- End a submission, now that its devices are known. -/
def accept
    (s : BatchSession κ)
    (p : Submission)
    (answer : Except StoreError (List Device))
    (now : Instant) :
    Except BatchError (BatchOperation × BatchEngine) := do
  let hardwareIds ←
    p.request.targets.resolveWith fun _ _ => answer
  s.engine.accept p.request p.id hardwareIds now

/- The storage answers the search of a submission. -/
def resolve
    (s : BatchSession κ)
    (ticket : Nat)
    (answer : Except StoreError (List Device))
    (now : Instant) : Option BatchNote × BatchSession κ :=
  match s.submissions.find? (·.ticket = ticket) with
  | none => (none, s)
  | some p =>
      let rest := s.submissions.filter (·.ticket != ticket)
      match s.accept p answer now with
      | .error e =>
          (some (.refused e), { s with submissions := rest })
      | .ok (o, engine) =>
          (some (.created o), { s with
            engine := engine
            submissions := rest })

------------------------------------------------------------
-- Runs
------------------------------------------------------------

/- Put the engine in place of the one that was. -/
def setEngine
    (s : BatchSession κ)
    (engine : BatchEngine) : BatchSession κ :=
  { s with engine := engine }

/- Begin to process an operation. -/
def process
    (s : BatchSession κ)
    (id : String)
    (now : Instant) : Option BatchNote × BatchSession κ :=
  match s.engine.process s.status now s.nextTicket id with
  | .error e => (some (.refused e), s)
  | .ok engine =>
      (none, { s with
        engine := engine
        nextTicket := s.nextTicket + 1 })

/- End a run, which answers with its operation. -/
def finish
    (s : BatchSession κ)
    (r : BatchRun)
    (now : Instant) : Option BatchNote × BatchSession κ :=
  let (answer, engine) := s.engine.finish now r.ticket
  (answer.map (.answered r.ticket r.operationId),
    s.setEngine engine)

/- A run goes on as far as the engine's status allows. -/
def turn
    (s : BatchSession κ)
    (ticket : Nat)
    (now : Instant) : Option BatchNote × BatchSession κ :=
  match s.engine.run? ticket with
  | none => (none, s)
  | some r =>
      match s.engine.turn s.status ticket with
      | (.wait, engine) => (none, s.setEngine engine)
      | (.act x, engine) =>
          (some (.began ticket r.operationId x s.status),
            s.setEngine engine)
      | (.finish, engine) =>
          (s.setEngine engine).finish r now

/- The rest of a run ends. -/
def wake
    (s : BatchSession κ)
    (ticket : Nat) : Option BatchNote × BatchSession κ :=
  match s.engine.run? ticket with
  | some ⟨_, id, .resting x _⟩ =>
      (some (.began ticket id x s.status),
        s.setEngine (s.engine.wake ticket).2)
  | _ => (none, s)

/- The action on a run's element ends. -/
def settle
    (s : BatchSession κ)
    (ticket : Nat)
    (now : Instant)
    (result : Except String (Dict String)) :
    Option BatchNote × BatchSession κ :=
  match s.engine.run? ticket with
  | some ⟨_, id, .acting x _⟩ =>
      (some (.ended ticket id x.index now result),
        s.setEngine (s.engine.settle now ticket result))
  | _ => (none, s)

/- Give up an operation. -/
def remove
    (s : BatchSession κ)
    (id : String) : Option BatchNote × BatchSession κ :=
  match s.engine.remove id with
  | .error e => (some (.refused e), s)
  | .ok (o, engine) =>
      (some (.removed o), s.setEngine engine)

/- Ask the engine's component to do something. -/
def control
    (s : BatchSession κ)
    (hooks : Hooks κ Unit)
    (action : LifecycleAction) :
    Option BatchNote × BatchSession κ :=
  let o := s.component.call hooks action ()
  (some (.controlled action o.result),
    { s with component := o.tree })

/- The engine's component comes to a status. -/
def change
    (s : BatchSession κ)
    (status : Status)
    (reason : String) : Option BatchNote × BatchSession κ :=
  (none, { s with
    component := .node
      (s.component.self.record status reason)
      s.component.children })

------------------------------------------------------------
-- Moves
------------------------------------------------------------

/- Make a move. -/
def step
    (s : BatchSession κ) :
    BatchMove κ → Option BatchNote × BatchSession κ
  | .submit r made => s.submit r made
  | .resolve ticket answer now => s.resolve ticket answer now
  | .process id now => s.process id now
  | .turn ticket now => s.turn ticket now
  | .wake ticket => s.wake ticket
  | .settle ticket now result => s.settle ticket now result
  | .get id => (some (.shown id (s.get? id)), s)
  | .remove id => s.remove id
  | .control hooks action => s.control hooks action
  | .change status reason => s.change status reason

/- Make moves one after the other; all notes, in order. -/
def run
    (s : BatchSession κ)
    (moves : List (BatchMove κ)) :
    List BatchNote × BatchSession κ :=
  runAll (fun s m => ((s.step m).1.toList, (s.step m).2)) s
    moves

end BatchSession

------------------------------------------------------------
-- Stories
------------------------------------------------------------

namespace BatchNote

/- Whether a note says that an operation was removed. -/
def removes
    (id : String) : BatchNote → Bool
  | removed o => o.id == id
  | _ => false

/- Whether a note is about the action on an element. -/
def concerns
    (id : String)
    (index : Nat) : BatchNote → Bool
  | began _ id' x _ => id' == id && x.index == index
  | ended _ id' index' _ _ => id' == id && index' == index
  | _ => false

/- All that the notes say about the action on an element. -/
def story
    (id : String)
    (index : Nat)
    (notes : List BatchNote) : List BatchNote :=
  notes.filter (concerns id index)

end BatchNote

end DeviceHub
