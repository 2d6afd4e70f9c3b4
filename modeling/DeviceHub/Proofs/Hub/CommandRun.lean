import DeviceHub.Proofs.Hub.CommandBatch
import DeviceHub.Proofs.Hub.LoneRun

/-
  The run of a command batch as the only call of a hub.

  As long as the engine is started, the run goes from one
  element to the next.  The elements behind it have been
  worked on, and those ahead are as they were.  It may rest
  on the way; it ends when a full channel blocks it, or when
  no element is left.

  Key definitions include:
    * `CommandBatch.Course`
    * `CommandBatch.Underway`
    * `CommandBatch.Ended`
    * `CommandBatch.Stage`

  Main statements:
    * `CommandBatch.Underway.act`
    * `CommandBatch.Underway.finish`
    * `CommandBatch.conduct`
-/

------------------------------------------------------------
-- The Course of a Run
------------------------------------------------------------

namespace DeviceHub

namespace CommandBatch

/-
  What is given when a command batch begins: its operation
  is in good order, the engine is started, and commands are
  delivered through the router.
-/
structure Ready
    (b : CommandBatch) : Prop where
  world : b.world.Ready
  orderly : b.operation.Orderly
  action : b.operation.action = .invokeCommand b.token b.values
  via : b.world.via = none
  started : b.world.status .batch = .started

/-
  A run on its way: the elements in `past` have been worked
  on, and those in `left` are still ahead.
-/
structure Course
    (b : CommandBatch)
    (name : String)
    (ticket : Nat)
    (h : Hub)
    (past left : List BatchElement)
    (p : RunPhase) : Prop where
  sent : b.Sent h past
  remaining : b.operation.remaining = past ++ left
  sound : h.engine.Sound
  run : h.engine.run? ticket =
    some ⟨ticket, b.operation.id, p⟩
  holds : p.holds = true
  ahead : p.ahead = left
  kept : ∃ o, h.engine.get? b.operation.id = some o ∧
    b.Worked o past
  calls : h.calls = [⟨some name, ticket, .processing none⟩]

/- All that remained has been worked on. -/
structure Done
    (b : CommandBatch)
    (h : Hub)
    (o : BatchOperation) : Prop where
  sent : b.Sent h b.operation.remaining
  kept : h.engine.get? b.operation.id = some o
  worked : b.Worked o b.operation.remaining

/-
  The call goes no further by itself: a full channel blocks
  it, or it has been answered.
-/
inductive Ended
    (b : CommandBatch)
    (name : String)
    (ticket : Nat)
    (h : Hub) : Prop where
  | blocked
      {current : Shipment × Dict String}
      (hCalls : h.calls = [⟨some name, ticket,
        .processing (some current)⟩])
      (hBlocked : h.Blocked current.1)
  | answered
      {o : BatchOperation}
      (hCalls : h.calls = [⟨some name, ticket,
        .answered (.batch (.ok o))⟩])
      (hDone : b.Done h o)

/- How far the call has come. -/
inductive Stage
    (b : CommandBatch)
    (name : String)
    (ticket : Nat)
    (h : Hub) : Prop where
  | going
      {past left : List BatchElement}
      {p : RunPhase}
      (hCourse : b.Course name ticket h past left p)
      (hIdle : ∀ x rest, p ≠ .acting x rest)
  | ended
      (hEnded : b.Ended name ticket h)

variable {b : CommandBatch}
variable {name : String}
variable {ticket : Nat}
variable {h : Hub}
variable {past left : List BatchElement}
variable {p : RunPhase}

------------------------------------------------------------
-- The Work on the Way
------------------------------------------------------------

/- The work with elements still ahead, whoever does it. -/
def Underway
    (b : CommandBatch)
    (h : Hub)
    (left : List BatchElement) : Prop :=
  ∃ past,
    b.Sent h past ∧
      b.operation.remaining = past ++ left ∧
      ∃ o, h.engine.get? b.operation.id = some o ∧
        b.Worked o past

/- A run on its way is the only call of its hub. -/
theorem Course.lone
    (hReady : b.Ready)
    (hCourse : b.Course name ticket h past left p) :
    h.LoneRun name ticket b.operation.id left p where
  started := (hCourse.sent.alike.status_eq .batch).trans
    hReady.started
  sound := hCourse.sound
  run := hCourse.run
  holds := hCourse.holds
  ahead := hCourse.ahead
  calls := hCourse.calls

theorem Course.underway
    (hCourse : b.Course name ticket h past left p) :
    b.Underway h left :=
  ⟨past, hCourse.sent, hCourse.remaining, hCourse.kept⟩

theorem Underway.course
    (hUnderway : b.Underway h left)
    (hRun : h.LoneRun name ticket b.operation.id left p) :
    ∃ past, b.Course name ticket h past left p := by
  rcases hUnderway with ⟨past, hSent, hRemaining, hKept⟩
  exact ⟨past, hSent, hRemaining, hRun.sound, hRun.run,
    hRun.holds, hRun.ahead, hKept, hRun.calls⟩

/- A turn of the run leaves the work as it is. -/
theorem Underway.turn
    (hUnderway : b.Underway h left)
    (e : BatchEngine)
    (hSame : e.operations = h.engine.operations) :
    b.Underway { h with engine := e } left := by
  rcases hUnderway with
    ⟨past, hSent, hRemaining, o, hKept, hWorked⟩
  refine ⟨past, hSent.congr rfl rfl rfl, hRemaining, o, ?_,
    hWorked⟩
  rw [← hKept]
  simp only [BatchEngine.get?, hSame]

/- The action on an element is carried out, or blocked. -/
theorem Underway.act
    {x : BatchElement}
    (hReady : b.Ready)
    (hRun : h.LoneRun name ticket b.operation.id (x :: left)
      (.acting x left))
    (hUnderway : b.Underway h (x :: left))
    {o : BatchOperation}
    (hKept : h.engine.get? b.operation.id = some o) :
    (∃ h', h.actOn ticket o x = (true, h') ∧
      h'.LoneRun name ticket b.operation.id left
        (.gate left false) ∧
      b.Underway h' left) ∨
    ∃ h', h.actOn ticket o x = (false, h') ∧
      b.Ended name ticket h' := by
  rcases hUnderway with
    ⟨past, hSent, hRemaining, o', hKept', hWorked⟩
  cases hKept.symm.trans hKept'
  have hVia : h.via = none :=
    hSent.alike.via.trans hReady.via
  have hAction := hWorked.action.trans hReady.action
  rcases hSent.ready.actOn hVia hAction ticket x with
    ⟨h', result, hActOn, hActed⟩ |
      ⟨h', current, hActOn, hCalls, hBlocked⟩
  · rcases hSent.acted hReady.world.faults hReady.orderly
        hRemaining (hActed.congr_operation hWorked.id.symm) with
      ⟨hSent', hSucceeds, hFails⟩
    have hNow : h'.now = b.world.now := hSent'.alike.clock
    have hSettled := hRun.get?_settleElement hActed.engine
      hKept result
    rw [hNow] at hSettled
    refine .inl ⟨_, hActOn, hRun.settle hActed.alike.forest
      hActed.engine hActed.calls result, past ++ [x],
      hSent'.congr rfl rfl rfl, ?_, _, hSettled,
      hWorked.settle hReady.orderly hRemaining hSucceeds
        hFails⟩
    rw [hRemaining]
    simp
  · refine .inr ⟨_, hActOn, ?_⟩
    have hPhase : (h'.setPhase ticket
        (.processing (some current))).calls = [⟨some name,
          ticket, .processing (some current)⟩] := by
      simp [Hub.setPhase, hCalls, hRun.calls]
    exact .blocked hPhase ⟨hBlocked.full, hBlocked.serve⟩

/- With no element left, the run ends with an answer. -/
theorem Underway.finish
    {first : Bool}
    (hRun : h.LoneRun name ticket b.operation.id []
      (.gate [] first))
    (hUnderway : b.Underway h []) :
    b.Ended name ticket (h.finishRun ticket) := by
  rcases hUnderway with
    ⟨past, hSent, hRemaining, o, hKept, hWorked⟩
  rw [List.append_nil] at hRemaining
  rcases hRun.finish hKept with ⟨e, hFinish, hAnswer⟩
  rw [hFinish]
  refine .answered rfl ⟨?_, hAnswer, ?_⟩
  · rw [hRemaining]
    exact hSent.congr rfl rfl rfl
  · rw [hRemaining]
    exact hWorked.markEnded h.now

/- Whoever waits at a full channel is not served. -/
theorem Ended.serveAll
    (hEnded : b.Ended name ticket h) :
    h.serveAll = h := by
  cases hEnded with
  | blocked hCalls hBlocked =>
      exact Hub.serveAll_eq_self hBlocked.serve
  | answered hCalls =>
      refine Hub.serveAll_of_no_shipments ?_
      rw [hCalls]
      intro c hc
      cases List.mem_singleton.1 hc
      rfl

/- The work of a command batch, as the run of a hub does it. -/
theorem conduct
    (hReady : b.Ready)
    (name : String)
    (ticket : Nat) :
    Hub.Conduct name ticket b.operation.id b.Underway
      (b.Ended name ticket) where
  turn := fun e hUnderway hSame => hUnderway.turn e hSame
  act := fun hRun hUnderway hKept =>
    hUnderway.act hReady hRun hKept
  finish := fun hRun hUnderway => hUnderway.finish hRun
  calls := by
    intro h hEnded
    cases hEnded with
    | blocked hCalls => exact ⟨_, hCalls, by simp⟩
    | answered hCalls => exact ⟨_, hCalls, by simp⟩
  served := Ended.serveAll

end CommandBatch

end DeviceHub
