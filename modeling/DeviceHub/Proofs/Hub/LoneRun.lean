import DeviceHub.Proofs.Hub.Calls

/-
  A run that processes an operation as the only call of a hub
  whose engine is started.

  It goes from one element to the next.  It may rest on the
  way, and once rests are over one round is enough for it to
  end.  What the actions do is left open: it is enough that
  each keeps what is known of the work so far, or ends it.

  Key definitions include:
    * `Hub.LoneRun`
    * `Hub.Conduct`
    * `Hub.LoneStage`
    * `Hub.runBegun`

  Main statements:
    * `Hub.LoneRun.settle`
    * `Hub.LoneRun.finish`
    * `Hub.Conduct.proceedRun`
    * `Hub.Conduct.advance`
    * `Hub.Conduct.reply`
    * `Hub.begin_process`
-/

namespace DeviceHub

namespace Hub

------------------------------------------------------------
-- A Run on Its Way
------------------------------------------------------------

/- A run that holds its operation, with elements ahead. -/
structure LoneRun
    (h : Hub)
    (name : String)
    (ticket : Nat)
    (id : String)
    (left : List BatchElement)
    (p : RunPhase) : Prop where
  started : h.status .batch = .started
  sound : h.engine.Sound
  run : h.engine.run? ticket = some ⟨ticket, id, p⟩
  holds : p.holds = true
  ahead : p.ahead = left
  calls : h.calls = [⟨some name, ticket, .processing none⟩]

variable {h h' : Hub}
variable {name : String}
variable {ticket : Nat}
variable {id : String}
variable {x : BatchElement}
variable {left : List BatchElement}
variable {p q : RunPhase}

namespace LoneRun

/- The run's operation is kept, and has left what is ahead. -/
theorem exists_operation
    (hRun : h.LoneRun name ticket id left p) :
    ∃ o, h.engine.get? id = some o ∧
      h.operationOf? ticket = some o ∧
      o.Orderly ∧
      o.remaining = left := by
  rcases hRun.sound.exists_operation hRun.run with
    ⟨t, hOperation⟩
  have hHere := hRun.sound.sound id t hOperation
  rcases hHere.held ticket p hRun.run hRun.holds with
    ⟨-, hRemaining, -⟩
  have hKept : h.engine.get? id = some t.operation := by
    simp [BatchEngine.get?, hOperation]
  refine ⟨t.operation, hKept, ?_, hHere.orderly, ?_⟩
  · rw [operationOf?, hRun.run]
    exact hKept
  · rw [← hRemaining, hRun.ahead]

/- The run comes to another phase with its next turn. -/
theorem setEngine
    (hRun : h.LoneRun name ticket id left p)
    {e : BatchEngine}
    (hSound : e.Sound)
    (hRun' : e.run? ticket = some ⟨ticket, id, q⟩)
    (hHolds : q.holds = true)
    (hAhead : q.ahead = p.ahead) :
    LoneRun { h with engine := e } name ticket id left q where
  started := hRun.started
  sound := hSound
  run := hRun'
  holds := hHolds
  ahead := hAhead.trans hRun.ahead
  calls := hRun.calls

/- The result of an action is noted, and the run goes on. -/
theorem settle
    (hRun : h.LoneRun name ticket id (x :: left)
      (.acting x left))
    (hForest : h'.forest = h.forest)
    (hEngine : h'.engine = h.engine)
    (hCalls : h'.calls = h.calls)
    (result : Except String (Dict String)) :
    (h'.settleElement ticket result).LoneRun name ticket id
      left (.gate left false) := by
  have hRun' : h'.engine.run? ticket =
      some ⟨ticket, id, .acting x left⟩ := by
    rw [hEngine]
    exact hRun.run
  have hSound : h'.engine.Sound := by
    rw [hEngine]
    exact hRun.sound
  refine ⟨?_, hSound.settle _ result hRun', ?_, rfl, rfl,
    hCalls.trans hRun.calls⟩
  · rw [← hRun.started]
    simp [status, tree?, settleElement, hForest]
  · simp [settleElement, BatchEngine.settle, hRun',
      BatchEngine.run?_setPhase]

/- The result shows in the operation. -/
theorem get?_settleElement
    (hRun : h.LoneRun name ticket id (x :: left)
      (.acting x left))
    (hEngine : h'.engine = h.engine)
    {o : BatchOperation}
    (hKept : h.engine.get? id = some o)
    (result : Except String (Dict String)) :
    (h'.settleElement ticket result).engine.get? id =
      some (o.settle x.index h'.now result) := by
  have hRun' : h'.engine.run? ticket =
      some ⟨ticket, id, .acting x left⟩ := by
    rw [hEngine]
    exact hRun.run
  rw [← hEngine] at hKept
  simp only [BatchEngine.get?,
    Option.map_eq_some_iff] at hKept
  rcases hKept with ⟨t, hOperation, rfl⟩
  simp [settleElement, BatchEngine.settle, hRun',
    BatchEngine.get?, BatchEngine.get?_update, hOperation]

/- With no element left, the call is answered. -/
theorem finish
    {first : Bool}
    (hRun : h.LoneRun name ticket id [] (.gate [] first))
    {o : BatchOperation}
    (hKept : h.engine.get? id = some o) :
    ∃ e : BatchEngine,
      h.finishRun ticket =
        { h with
          engine := e
          calls := [⟨some name, ticket, .answered
            (.batch (.ok (o.markEnded h.now)))⟩] } ∧
      e.get? id = some (o.markEnded h.now) := by
  simp only [BatchEngine.get?,
    Option.map_eq_some_iff] at hKept
  rcases hKept with ⟨t, hOperation, rfl⟩
  rcases hRun.sound.finish h.now hRun.run hOperation with
    ⟨hAnswer, -, hGet, -⟩
  refine ⟨_, ?_, (hGet id).trans (if_pos rfl)⟩
  simp only [finishRun, hAnswer, setPhase, hRun.calls,
    List.map_cons, List.map_nil, if_true]

end LoneRun

------------------------------------------------------------
-- What Is Known of the Work
------------------------------------------------------------

/-
  What `going` says holds as long as elements are left, and
  what `ended` says once the call goes no further by itself.
-/
structure Conduct
    (name : String)
    (ticket : Nat)
    (id : String)
    (going : Hub → List BatchElement → Prop)
    (ended : Hub → Prop) : Prop where
  turn : ∀ {h : Hub} {left : List BatchElement}
    (e : BatchEngine),
    going h left →
    e.operations = h.engine.operations →
    going { h with engine := e } left
  act : ∀ {h : Hub} {x : BatchElement}
    {left : List BatchElement} {o : BatchOperation},
    h.LoneRun name ticket id (x :: left) (.acting x left) →
    going h (x :: left) →
    h.engine.get? id = some o →
    (∃ h', h.actOn ticket o x = (true, h') ∧
      h'.LoneRun name ticket id left (.gate left false) ∧
      going h' left) ∨
    ∃ h', h.actOn ticket o x = (false, h') ∧ ended h'
  finish : ∀ {h : Hub} {first : Bool},
    h.LoneRun name ticket id [] (.gate [] first) →
    going h [] →
    ended (h.finishRun ticket)
  calls : ∀ {h : Hub}, ended h →
    ∃ phase, h.calls = [⟨some name, ticket, phase⟩] ∧
      phase ≠ .processing none
  served : ∀ {h : Hub}, ended h → h.serveAll = h

/- How far the call has come. -/
inductive LoneStage
    (name : String)
    (ticket : Nat)
    (id : String)
    (going : Hub → List BatchElement → Prop)
    (ended : Hub → Prop)
    (h : Hub) : Prop where
  | going
      {left : List BatchElement}
      {p : RunPhase}
      (hRun : h.LoneRun name ticket id left p)
      (hIdle : ∀ x rest, p ≠ .acting x rest)
      (hGoing : going h left)
  | ended (hEnded : ended h)

namespace Conduct

variable {going : Hub → List BatchElement → Prop}
variable {ended : Hub → Prop}

/-
  A run goes on for any number of turns, and is over if it
  does not rest and there are more turns than elements.  The
  induction is on the turns.
-/
theorem proceedRun
    (hConduct : Conduct name ticket id going ended)
    (hRun : h.LoneRun name ticket id left p)
    (hIdle : ∀ x rest, p ≠ .acting x rest)
    (hGoing : going h left)
    (rested : Bool)
    (turns : Nat) :
    LoneStage name ticket id going ended
        (h.proceedRun rested ticket turns) ∧
      (rested = true → left.length < turns →
        ended (h.proceedRun rested ticket turns)) := by
  induction turns generalizing h left p with
  | zero =>
      exact ⟨.going hRun hIdle hGoing,
        fun _ hTurns => absurd hTurns (Nat.not_lt_zero _)⟩
  | succ turns ih =>
      rcases nextTurn_started hRun.started hRun.sound
          hRun.run hRun.holds hIdle rested with
        ⟨next, e, q, hNext, hSound, hSame, hRun', hTurned⟩
      have hGoing' := hConduct.turn e hGoing hSame
      unfold Hub.proceedRun
      simp only [hNext]
      cases hTurned with
      | wait hRested hHolds hAhead hIdle' =>
          refine ⟨.going (hRun.setEngine hSound hRun' hHolds
            hAhead) hIdle' hGoing', ?_⟩
          intro hNot
          rw [hRested] at hNot
          cases hNot
      | @finish first hAhead =>
          have hLeft := hRun.ahead.symm.trans hAhead
          subst hLeft
          have hEnded := hConduct.finish (hRun.setEngine hSound
            hRun' rfl hAhead.symm) hGoing'
          exact ⟨.ended hEnded, fun _ _ => hEnded⟩
      | @act x rest hAhead =>
          have hLeft := hRun.ahead.symm.trans hAhead
          subst hLeft
          have hActing := hRun.setEngine hSound hRun' rfl
            hAhead.symm
          rcases hActing.exists_operation with
            ⟨o, hKept, hOf, -⟩
          simp only [hOf]
          rcases hConduct.act hActing hGoing' hKept with
            ⟨h', hActOn, hRunNext, hGoingNext⟩ |
              ⟨h', hActOn, hEnded⟩
          · simp only [hActOn, if_true]
            rcases ih hRunNext (fun y left hEq => by cases hEq)
                hGoingNext with
              ⟨hStage, hEnd⟩
            refine ⟨hStage, ?_⟩
            intro hRested hTurns
            rw [List.length_cons] at hTurns
            exact hEnd hRested (by omega)
          · simp only [hActOn]
            exact ⟨.ended hEnded, fun _ _ => hEnded⟩

/- A round keeps the stage, and ends a call at no rest. -/
theorem proceedAll
    (hConduct : Conduct name ticket id going ended)
    (hStage : LoneStage name ticket id going ended h)
    (rested : Bool) :
    LoneStage name ticket id going ended
        (h.proceedAll rested) ∧
      (rested = true → ended (h.proceedAll rested)) := by
  cases hStage with
  | ended hEnded =>
      rcases hConduct.calls hEnded with
        ⟨phase, hCalls, hPhase⟩
      have hStays : h.proceedAll rested = h := by
        rw [proceedAll_of_alone hCalls]
        unfold proceed
        split
        · rename_i hProcessing
          exact absurd hProcessing hPhase
        · rfl
      rw [hStays]
      exact ⟨.ended hEnded, fun _ => hEnded⟩
  | going hRun hIdle hGoing =>
      rcases hRun.exists_operation with
        ⟨o, -, hOf, -, hRemaining⟩
      have hProceed : h.proceedAll rested =
          h.proceedRun rested ticket
            (o.elements.length + 1) := by
        rw [proceedAll_of_alone hRun.calls]
        simp only [proceed, hOf]
      rw [hProceed]
      rcases hConduct.proceedRun hRun hIdle hGoing rested
          (o.elements.length + 1) with
        ⟨hNext, hEnd⟩
      refine ⟨hNext, ?_⟩
      intro hRested
      refine hEnd hRested ?_
      rw [← hRemaining]
      exact Nat.lt_succ_of_le (List.length_filter_le _ _)

/- At no stage is there anyone to serve. -/
theorem serveAll
    (hConduct : Conduct name ticket id going ended)
    (hStage : LoneStage name ticket id going ended h) :
    h.serveAll = h := by
  cases hStage with
  | ended hEnded => exact hConduct.served hEnded
  | going hRun =>
      refine serveAll_of_no_shipments ?_
      rw [hRun.calls]
      intro c hc
      cases List.mem_singleton.1 hc
      rfl

/- So do any rounds, of which one is enough. -/
theorem rounds
    (hConduct : Conduct name ticket id going ended)
    (hStage : LoneStage name ticket id going ended h)
    (rested : Bool)
    (n : Nat) :
    LoneStage name ticket id going ended
        (h.rounds rested (n + 1)) ∧
      (rested = true → ended (h.rounds rested (n + 1))) := by
  induction n generalizing h with
  | zero =>
      rw [Hub.rounds, Hub.rounds, hConduct.serveAll hStage]
      exact hConduct.proceedAll hStage rested
  | succ n ih =>
      rw [Hub.rounds, hConduct.serveAll hStage]
      exact ih (hConduct.proceedAll hStage rested).1

/- The call keeps its stage while the hub goes on. -/
theorem advance
    (hConduct : Conduct name ticket id going ended)
    (hStage : LoneStage name ticket id going ended h)
    (rested : Bool) :
    LoneStage name ticket id going ended (h.advance rested) ∧
      (rested = true → ended (h.advance rested)) := by
  have hRounds := hConduct.rounds hStage rested
    (h.calls.length + 1)
  have hCalls : ∃ phase,
      (h.rounds rested (h.calls.length + 2)).calls =
        [⟨some name, ticket, phase⟩] := by
    cases hRounds.1 with
    | going hRun => exact ⟨_, hRun.calls⟩
    | ended hEnded =>
        rcases hConduct.calls hEnded with ⟨phase, hCalls, -⟩
        exact ⟨phase, hCalls⟩
  rcases hCalls with ⟨phase, hCalls⟩
  unfold Hub.advance
  rw [dropUnnamed_of_alone hCalls]
  exact hRounds

/- Who asks for the call learns how it is once it is over. -/
theorem reply
    (hConduct : Conduct name ticket id going ended)
    (hStage : LoneStage name ticket id going ended h) :
    ∃ h', ended h' ∧
      h.reply name =
        match h'.collect? name with
        | some (answer, h'') => (some answer, h'')
        | none => (none, h') := by
  have hEnded := (hConduct.advance hStage true).2 rfl
  cases hCollect : h.collect? name with
  | none =>
      -- Nothing has been answered yet, so the rests end.
      refine ⟨_, hEnded, ?_⟩
      unfold Hub.reply
      split
      · rename_i hSome
        rw [hCollect] at hSome
        cases hSome
      · rfl
  | some answered =>
      cases hStage with
      | going hRun =>
          simp [collect?, hRun.calls] at hCollect
      | ended hEnded' =>
          rcases hConduct.calls hEnded' with
            ⟨phase, hCalls, -⟩
          refine ⟨h, hEnded', ?_⟩
          rcases answered with ⟨answer, h''⟩
          have hNone : h''.calls = [] := by
            cases phase with
            | answered result =>
                simp only [collect?, hCalls,
                  List.find?_cons, beq_self_eq_true,
                  Option.some.injEq, Prod.mk.injEq]
                  at hCollect
                rw [← hCollect.2]
                simp
            | delivering => simp [collect?, hCalls] at hCollect
            | processing => simp [collect?, hCalls] at hCollect
          have hSettle : h''.settle = h'' := by
            simp [Hub.settle, hasNamed, hNone]
          simp only [Hub.reply, hCollect, hSettle]

end Conduct

------------------------------------------------------------
-- The Beginning
------------------------------------------------------------

/- The hub once a call has come and its run begun. -/
def runBegun
    (h : Hub)
    (name id : String) : Hub :=
  { h with
    engine := (h.engine.enroll h.nextTicket id).acquire h.now
      h.nextTicket id
    calls := [⟨some name, h.nextTicket, .processing none⟩]
    nextTicket := h.nextTicket + 1 }

variable {o : BatchOperation}

/- At an idle hub the run gets hold of its operation. -/
theorem process_of_idle
    (hIdle : h.Idle)
    (hKept : h.engine.get? id = some o)
    (ticket : Nat) :
    h.engine.process .started h.now ticket id =
      .ok ((h.engine.enroll ticket id).acquire h.now ticket
        id) := by
  simp only [BatchEngine.get?,
    Option.map_eq_some_iff] at hKept
  rcases hKept with ⟨t, hOperation, -⟩
  have hFree := hIdle.free _ t hOperation
  simp [BatchEngine.process, BatchEngine.isRunning,
    hOperation, hFree]

/- The run begins with all that remains ahead of it. -/
theorem loneRun_runBegun
    (hStarted : h.status .batch = .started)
    (hSound : h.engine.Sound)
    (hIdle : h.Idle)
    (hKept : h.engine.get? id = some o)
    (name : String) :
    (h.runBegun name id).LoneRun name h.nextTicket id
        o.remaining (.gate o.remaining true) ∧
      (h.runBegun name id).engine.get? id =
        some (o.markStarted h.now) := by
  have hProcess := process_of_idle hIdle hKept h.nextTicket
  have hNew : h.engine.run? h.nextTicket = none := by
    simp [BatchEngine.run?, hIdle.runs]
  simp only [BatchEngine.get?,
    Option.map_eq_some_iff] at hKept
  rcases hKept with ⟨t, hOperation, rfl⟩
  have hKnown : (h.engine.enroll h.nextTicket id
      ).operations.get? id = some t := hOperation
  refine ⟨⟨hStarted, hSound.process hNew hProcess, ?_, rfl,
    rfl, rfl⟩, ?_⟩
  · change BatchEngine.run? (BatchEngine.acquire _ _ _ _) _
      = _
    rw [BatchEngine.run?_acquire hKnown,
      BatchEngine.run?_enroll hNew]
    simp
  · change BatchEngine.get? (BatchEngine.acquire _ _ _ _) _
      = _
    simp [BatchEngine.get?, BatchEngine.get?_acquire,
      hOperation]

/- A call to process begins like any other at an idle hub. -/
theorem begin_process
    (hStarted : h.status .batch = .started)
    (hIdle : h.Idle)
    (hKept : h.engine.get? id = some o)
    (name : String) :
    h.begin name (.process id) =
      ((h.runBegun name id).advance false).reply name := by
  have hFirst : ({ h with
        nextTicket := h.nextTicket + 1 } : Hub
      ).firstPhase h.nextTicket (.process id) =
      (.processing none, { h with
        engine := (h.engine.enroll h.nextTicket id
          ).acquire h.now h.nextTicket id
        nextTicket := h.nextTicket + 1 }) := by
    have hStarted' : ({ h with
        nextTicket := h.nextTicket + 1 } : Hub
        ).status .batch = .started := hStarted
    have hNow : ({ h with
        nextTicket := h.nextTicket + 1 } : Hub
        ).now = h.now := rfl
    simp only [firstPhase, beginRun, hStarted', hNow,
      process_of_idle hIdle hKept]
  rw [begin_of_idle hIdle.calls hFirst]
  simp only [runBegun, hIdle.calls, List.nil_append]

end Hub

end DeviceHub
