import DeviceHub.Hub.Calls
import DeviceHub.Proofs.Batch.Turns

/-
  What the calls of a hub do while nothing interferes.

  A run in a started engine waits only for the end of a
  rest.  A hub where no destination can serve leaves the
  waiting messages alone, one call goes on by itself, and
  without calls nothing goes on.

  Key definitions include:
    * `Hub.Turned`
    * `Hub.Idle`

  Main statements:
    * `Hub.nextTurn_started`
    * `Hub.advance_of_no_calls`
    * `Hub.begin_of_idle`
-/

------------------------------------------------------------
-- Turns in a Started Engine
------------------------------------------------------------

namespace DeviceHub

namespace Hub

/-
  What a run that holds its operation does next in a started
  engine, and the phase that it comes to.
-/
inductive Turned
    (rested : Bool)
    (p : RunPhase) : Turn → RunPhase → Prop where
  | wait
      {q : RunPhase}
      (hRested : rested = false)
      (hHolds : q.holds = true)
      (hAhead : q.ahead = p.ahead)
      (hIdle : ∀ x left, q ≠ .acting x left) :
      Turned rested p .wait q
  | act
      {x : BatchElement}
      {left : List BatchElement}
      (hAhead : p.ahead = x :: left) :
      Turned rested p (.act x) (.acting x left)
  | finish
      {first : Bool}
      (hAhead : p.ahead = []) :
      Turned rested p .finish (.gate [] first)

/- A run comes to its rest, which may be over already. -/
theorem nextTurn_of_rest
    {h : Hub}
    {ticket : Nat}
    {id : String}
    {x : BatchElement}
    {left : List BatchElement}
    {e : BatchEngine}
    (hTurn : h.engine.turn (h.status .batch) ticket =
      (.wait, e))
    (hSound : e.Sound)
    (hRun : e.run? ticket =
      some ⟨ticket, id, .resting x left⟩)
    (rested : Bool) :
    ∃ next e' q,
      h.nextTurn rested ticket =
        (next, { h with engine := e' }) ∧
      e'.Sound ∧
      e'.operations = e.operations ∧
      e'.run? ticket = some ⟨ticket, id, q⟩ ∧
      Turned rested (.resting x left) next q := by
  cases rested with
  | false =>
      refine ⟨.wait, e, .resting x left, ?_, hSound, rfl,
        hRun, .wait rfl rfl rfl ?_⟩
      · simp [nextTurn, hTurn]
      · intro y rest hEq
        cases hEq
  | true =>
      refine ⟨.act x, e.setPhase ticket (.acting x left),
        .acting x left, ?_,
        hSound.setPhase hRun rfl rfl rfl, rfl, ?_,
        .act rfl⟩
      · simp [nextTurn, hTurn, BatchEngine.wake, hRun]
      · simp [BatchEngine.run?_setPhase, hRun]

/-
  A run that holds its operation waits only for the end of
  a rest, and finishes only when no element is left.
-/
theorem nextTurn_started
    {h : Hub}
    (hStarted : h.status .batch = .started)
    (hSound : h.engine.Sound)
    {ticket : Nat}
    {id : String}
    {p : RunPhase}
    (hRun : h.engine.run? ticket = some ⟨ticket, id, p⟩)
    (hHolds : p.holds = true)
    (hIdle : ∀ x left, p ≠ .acting x left)
    (rested : Bool) :
    ∃ next e' q,
      h.nextTurn rested ticket =
        (next, { h with engine := e' }) ∧
      e'.Sound ∧
      e'.operations = h.engine.operations ∧
      e'.run? ticket = some ⟨ticket, id, q⟩ ∧
      Turned rested p next q := by
  have hTo : ∀ q, q.holds = true → q.ahead = p.ahead →
      (h.engine.setPhase ticket q).Sound ∧
      (h.engine.setPhase ticket q).run? ticket =
        some ⟨ticket, id, q⟩ := by
    intro q hHolds' hAhead
    refine ⟨hSound.setPhase hRun hHolds hHolds' hAhead, ?_⟩
    simp [BatchEngine.run?_setPhase, hRun]
  cases p with
  | queued => cases hHolds
  | acting x left => exact absurd rfl (hIdle x left)
  | resting x left =>
      rcases hTo (.resting x left) rfl rfl with
        ⟨hSound', hRun'⟩
      refine nextTurn_of_rest ?_ hSound' hRun' rested
      simp [BatchEngine.turn, hRun, BatchEngine.nextPhase]
  | gate left first =>
      cases left with
      | nil =>
          rcases hTo (.gate [] first) rfl rfl with
            ⟨hSound', hRun'⟩
          refine ⟨.finish, _, .gate [] first, ?_, hSound',
            rfl, hRun', .finish rfl⟩
          simp [nextTurn, BatchEngine.turn, hRun,
            BatchEngine.nextPhase]
      | cons x left =>
          by_cases hAtOnce :
              (first || h.engine.throttle == 0) = true
          · rcases hTo (.acting x left) rfl rfl with
              ⟨hSound', hRun'⟩
            refine ⟨.act x, _, .acting x left, ?_, hSound',
              rfl, hRun', .act rfl⟩
            simp [nextTurn, BatchEngine.turn, hRun,
              BatchEngine.nextPhase, hStarted,
              Status.isPausing, hAtOnce]
          · rcases hTo (.resting x left) rfl rfl with
              ⟨hSound', hRun'⟩
            have hTurn : h.engine.turn (h.status .batch)
                ticket = (.wait, h.engine.setPhase ticket
                  (.resting x left)) := by
              simp [BatchEngine.turn, hRun,
                BatchEngine.nextPhase, hStarted,
                Status.isPausing, hAtOnce]
            rcases nextTurn_of_rest hTurn hSound' hRun'
              rested with ⟨next, e', q, hNext, hSound'',
                hSame, hRun'', hTurned⟩
            refine ⟨next, e', q, hNext, hSound'', hSame,
              hRun'', ?_⟩
            cases hTurned with
            | wait hRested hHolds' hAhead hIdle' =>
                exact .wait hRested hHolds' hAhead hIdle'
            | act hAhead => exact .act hAhead
            | finish hAhead => cases hAhead

end Hub

end DeviceHub

------------------------------------------------------------
-- A Hub with Nothing to Serve
------------------------------------------------------------

namespace DeviceHub

namespace Hub

variable {h : Hub}

/- If no one is to be served, the hub is left as it is. -/
theorem serveAll_of_nobody
    (hNobody : ∀ place, h.serveOne? place = none) :
    h.serveAll = h := by
  have hServe : ∀ place n, h.serve place n = h := by
    intro place n
    cases n with
    | zero => rfl
    | succ n => simp [serve, hNobody]
  unfold serveAll
  induction List.range h.equipment.destinations.length with
  | nil => rfl
  | cons place rest ih =>
      rw [List.foldl_cons, hServe]
      exact ih

/- Destinations that cannot serve anyone serve no one. -/
theorem serveAll_eq_self
    (hServe : ∀ d ∈ h.equipment.destinations,
      d.transport.serve? = none) :
    h.serveAll = h := by
  refine serveAll_of_nobody ?_
  intro place
  cases hAt : h.equipment.destinations[place]? with
  | none => simp [serveOne?, hAt]
  | some d =>
      have hNone := hServe d (List.mem_of_getElem? hAt)
      simp [serveOne?, hAt, hNone]

/- Nor is a call served that waits for no delivery. -/
theorem serveAll_of_no_shipments
    (hShipments : ∀ c ∈ h.calls, c.shipment? = none) :
    h.serveAll = h := by
  refine serveAll_of_nobody ?_
  intro place
  unfold serveOne?
  cases h.equipment.destinations[place]? with
  | none => rfl
  | some d =>
      cases hServe : d.transport.serve? with
      | none => simp [hServe]
      | some served =>
          rcases served with ⟨ticket, result, transport⟩
          cases hFind : h.calls.find? (·.ticket = ticket) with
          | none => simp [hServe, hFind]
          | some c =>
              have hNone := hShipments c
                (List.mem_of_find?_eq_some hFind)
              simp [hServe, hFind, hNone]

/- The only call is the only one to go on. -/
theorem proceedAll_of_alone
    {c : Call}
    (hCalls : h.calls = [c])
    (rested : Bool) :
    h.proceedAll rested = h.proceed rested c := by
  simp [proceedAll, call?, hCalls]

/- A call with a name is not dropped. -/
theorem dropUnnamed_of_alone
    {name : String}
    {ticket : Nat}
    {phase : CallPhase}
    (hCalls : h.calls = [⟨some name, ticket, phase⟩]) :
    h.dropUnnamed = h := by
  unfold dropUnnamed
  rw [hCalls]
  cases h
  simp_all

/- A hub where no call can go on stays as it is. -/
theorem advance_of_still
    {rested : Bool}
    (hServe : h.serveAll = h)
    (hProceed : h.proceedAll rested = h)
    (hDrop : h.dropUnnamed = h) :
    h.advance rested = h := by
  have hRound : ∀ n, h.rounds rested n = h := by
    intro n
    induction n with
    | zero => rfl
    | succ n ih => rw [rounds, hServe, hProceed, ih]
  rw [advance, hRound, hDrop]

/- Without calls nothing goes on. -/
theorem advance_of_no_calls
    (hCalls : h.calls = [])
    (rested : Bool) :
    h.advance rested = h := by
  refine advance_of_still (serveAll_of_no_shipments ?_) ?_ ?_
  · rw [hCalls]
    intro c hc
    cases hc
  · simp [proceedAll, hCalls]
  · unfold dropUnnamed
    rw [hCalls]
    cases h
    simp_all

/- Nor does it with one call that has been answered. -/
theorem advance_of_answered
    {name : String}
    {ticket : Nat}
    {answer : Answer}
    (hCalls : h.calls =
      [⟨some name, ticket, .answered answer⟩])
    (rested : Bool) :
    h.advance rested = h := by
  refine advance_of_still (serveAll_of_no_shipments ?_) ?_
    (dropUnnamed_of_alone hCalls)
  · rw [hCalls]
    intro c hc
    cases List.mem_singleton.1 hc
    rfl
  · rw [proceedAll_of_alone hCalls]
    rfl

/- The answer of the only call is collected, if it is there. -/
theorem collect?_of_answered
    {name : String}
    {ticket : Nat}
    {answer : Answer}
    (hCalls : h.calls =
      [⟨some name, ticket, .answered answer⟩]) :
    h.collect? name = some (answer, { h with calls := [] }) := by
  simp [collect?, hCalls]

/- Without other calls, a call begins with its own phase. -/
theorem begin_of_idle
    (hCalls : h.calls = [])
    {name : String}
    {r : Request}
    {phase : CallPhase}
    {h' : Hub}
    (hFirst : ({ h with
        nextTicket := h.nextTicket + 1 } : Hub).firstPhase
      h.nextTicket r = (phase, h')) :
    h.begin name r = (({ h' with
        calls := h'.calls ++
          [⟨some name, h.nextTicket, phase⟩] } : Hub
      ).advance false).reply name := by
  have hFreed : h.freeName name = h := by
    unfold freeName
    rw [hCalls]
    cases h
    simp_all
  unfold begin
  rw [hFreed, advance_of_no_calls hCalls]
  dsimp only
  rw [hFirst]

/- A call that is answered at once leaves no trace of it. -/
theorem begin_of_answered
    (hCalls : h.calls = [])
    {name : String}
    {r : Request}
    {answer : Answer}
    {h' : Hub}
    (hFirst : ({ h with
        nextTicket := h.nextTicket + 1 } : Hub).firstPhase
      h.nextTicket r = (.answered answer, h'))
    (hCalls' : h'.calls = []) :
    h.begin name r = (some answer, h') := by
  have hAlone : ({ h' with
      calls := h'.calls ++
        [⟨some name, h.nextTicket, .answered answer⟩] } :
          Hub).calls =
        [⟨some name, h.nextTicket, .answered answer⟩] := by
    rw [hCalls', List.nil_append]
  have hSame : ({ h' with calls := [] } : Hub) = h' := by
    cases h'
    simp_all
  have hSettle : h'.settle = h' := by
    simp [settle, hasNamed, hCalls']
  rw [begin_of_idle hCalls hFirst, advance_of_answered hAlone]
  simp only [reply, collect?_of_answered hAlone, hSame,
    hSettle]

/-
  A hub at which nothing goes on: there are no calls, and no
  run holds an operation.
-/
structure Idle
    (h : Hub) : Prop where
  calls : h.calls = []
  runs : h.engine.runs = []
  free : ∀ id t, h.engine.operations.get? id = some t →
    t.holder = none

end Hub

end DeviceHub
