import DeviceHub.Batch.Session
import DeviceHub.Proofs.Batch.Turns

/-
  Sessions of the batch engine, move by move.

  A session stays sound.  To an operation that is kept, a
  move can do one of three things: begin the action on its
  first remaining element, while no other action runs; write
  the result of that action back; or leave its elements and
  the actions on them as they are.

  Key definitions include:
    * `BatchSession.Sound`
    * `BatchSession.Effect`
    * `BatchSession.Means`
    * `BatchSession.Reachable`

  Main statements:
    * `BatchSession.Sound.change_step`
    * `BatchSession.Sound.keeps_run`
    * `BatchSession.Reachable.sound`
-/

namespace DeviceHub

namespace BatchSession

variable {κ : Type}

------------------------------------------------------------
-- Sound Sessions
------------------------------------------------------------

/- The engine is sound, and tickets to come are free. -/
structure Sound
    (s : BatchSession κ) : Prop where
  engine : s.engine.Sound
  tickets : ∀ n, s.nextTicket ≤ n →
    s.engine.run? n = none

/- The action on an element of an operation runs. -/
def Acts
    (s : BatchSession κ)
    (n : Nat)
    (id : String)
    (x : BatchElement) : Prop :=
  s.engine.Acts n id x

/-
  What becomes of an operation `o`, kept under `id`, and the
  note about it.
-/
inductive Effect
    (s s' : BatchSession κ)
    (id : String)
    (o : BatchOperation) :
    Option BatchNote → Prop where
  | quiet
      (o' : BatchOperation)
      {note : Option BatchNote}
      (hKept : s'.get? id = some o')
      (hElements : o'.elements = o.elements)
      (hActs : ∀ n x, s'.Acts n id x ↔ s.Acts n id x)
      (hNote : ∀ b ∈ note, ∀ i, b.concerns id i = false) :
      Effect s s' id o note
  | began
      {n : Nat}
      {x : BatchElement}
      {left : List BatchElement}
      {status : Status}
      (hKept : s'.get? id = some o)
      (hRemaining : o.remaining = x :: left)
      (hBefore : ∀ m y, ¬ s.Acts m id y)
      (hAfter : ∀ m y, s'.Acts m id y ↔ m = n ∧ y = x) :
      Effect s s' id o (some (.began n id x status))
  | ended
      {n : Nat}
      {x : BatchElement}
      {left : List BatchElement}
      {now : Instant}
      {result : Except String (Dict String)}
      (hKept : s'.get? id =
        some (o.settle x.index now result))
      (hRemaining : o.remaining = x :: left)
      (hBefore : s.Acts n id x)
      (hAfter : ∀ m y, ¬ s'.Acts m id y) :
      Effect s s' id o
        (some (.ended n id x.index now result))

/-
  What a note says of the sessions before and after.  A
  created operation is new and was not kept before; an
  answer is what is kept; an action begins where the engine
  is started, or at the end of a rest.
-/
def Means
    (s s' : BatchSession κ) : BatchNote → Prop
  | .created o =>
      s.engine.operations.get? o.id = none ∧
        s'.engine = s.engine.insert o ∧
        ∀ (i : Nat) (x : BatchElement),
          o.elements[i]? = some x → x = .new i x.hardwareId
  | .answered _ id o =>
      s'.get? id = some o ∧
        o.processingEndedDate.isSome = o.isFinished
  | .began n id x status =>
      status = s.status ∧
        (status = .started ∨ ∃ left,
          s.engine.run? n = some ⟨n, id, .resting x left⟩)
  | _ => True

/-
  A move keeps a session sound and does what it can do.  Runs
  go to rest only while the engine is started, and only if
  there are rests at all.
-/
structure Change
    (s : BatchSession κ)
    (r : Option BatchNote × BatchSession κ) : Prop where
  sound : r.2.Sound
  throttle : r.2.engine.throttle = s.engine.throttle
  rests : ∀ n id x left,
    r.2.engine.run? n = some ⟨n, id, .resting x left⟩ →
    s.engine.run? n = some ⟨n, id, .resting x left⟩ ∨
      (s.status = .started ∧ s.engine.throttle ≠ 0)
  means : ∀ b ∈ r.1, Means s r.2 b
  effect : ∀ id o, s.get? id = some o →
    (∀ b ∈ r.1, b.removes id = false) →
    Effect s r.2 id o r.1

/- An operation that is kept is tracked. -/
theorem exists_tracked
    {s : BatchSession κ}
    {id : String}
    {o : BatchOperation}
    (hKept : s.get? id = some o) :
    ∃ t, s.engine.operations.get? id = some t ∧
      t.operation = o :=
  Option.map_eq_some_iff.1 hKept

/- What is kept is in good order, under its own id. -/
theorem Sound.orderly
    {s : BatchSession κ}
    (hSound : s.Sound)
    {id : String}
    {o : BatchOperation}
    (hKept : s.get? id = some o) :
    o.id = id ∧ o.Orderly := by
  rcases exists_tracked hKept with ⟨t, hOperation, rfl⟩
  have hHere := hSound.engine.sound id t hOperation
  exact ⟨hHere.named, hHere.orderly⟩

/- An action runs on the first of the elements remaining. -/
theorem Sound.remaining_of_acts
    {s : BatchSession κ}
    (hSound : s.Sound)
    {n : Nat}
    {id : String}
    {x : BatchElement}
    {o : BatchOperation}
    (hKept : s.get? id = some o)
    (hActs : s.Acts n id x) :
    ∃ left, o.remaining = x :: left := by
  rcases exists_tracked hKept with ⟨t, hOperation, rfl⟩
  exact hSound.engine.remaining_of_acts hOperation hActs

------------------------------------------------------------
-- Quiet Moves
------------------------------------------------------------

/-
  A move is quiet that keeps the elements of operations, and
  the runs that act or rest.
-/
theorem change_of_busy
    {s s' : BatchSession κ}
    {note : Option BatchNote}
    (hSound : s'.Sound)
    (hThrottle : s'.engine.throttle = s.engine.throttle)
    (hBusy : ∀ n id p, p.busy = true →
      (s'.engine.run? n = some ⟨n, id, p⟩ ↔
        s.engine.run? n = some ⟨n, id, p⟩))
    (hNote : ∀ b ∈ note, Means s s' b ∧
      ∀ id i, b.concerns id i = false)
    (hKept : ∀ id o, s.get? id = some o →
      (∀ b ∈ note, b.removes id = false) →
      ∃ o', s'.get? id = some o' ∧
        o'.elements = o.elements) :
    Change s (note, s') where
  sound := hSound
  throttle := hThrottle
  means := fun b hb => (hNote b hb).1
  rests := by
    intro n id x left hRests
    exact .inl ((hBusy n id _ rfl).1 hRests)
  effect := by
    intro id o ho hStays
    rcases hKept id o ho hStays with ⟨o', ho', hElements⟩
    refine .quiet o' ho' hElements ?_
      (fun b hb i => (hNote b hb).2 id i)
    intro n x
    exact BatchEngine.acts_congr_of_busy
      (fun p hp => hBusy n id p hp) x

/- A move that changes no engine has no effect. -/
theorem Sound.change_of_engine_eq
    {s s' : BatchSession κ}
    (hSound : s.Sound)
    {note : Option BatchNote}
    (hEngine : s'.engine = s.engine)
    (hTickets : s.nextTicket ≤ s'.nextTicket)
    (hNote : ∀ b ∈ note, Means s s' b ∧
      ∀ id i, b.concerns id i = false) :
    Change s (note, s') := by
  refine change_of_busy ⟨hEngine ▸ hSound.engine, ?_⟩ ?_ ?_
    hNote ?_
  · intro n hn
    rw [hEngine]
    exact hSound.tickets n (Nat.le_trans hTickets hn)
  · rw [hEngine]
  · intro n id p _
    rw [hEngine]
  · intro id o hKept _
    refine ⟨o, ?_, rfl⟩
    simpa [BatchSession.get?, hEngine] using hKept

/- Nothing at all happens. -/
theorem Sound.change_self
    {s : BatchSession κ}
    (hSound : s.Sound) :
    Change s (none, s) :=
  hSound.change_of_engine_eq rfl (Nat.le_refl _)
    fun _ hb => by cases hb

theorem Sound.change_submit
    {s : BatchSession κ}
    (hSound : s.Sound)
    (r : BatchRequest)
    (made : String) :
    Change s (s.submit r made) := by
  simp only [submit]
  split
  · refine hSound.change_of_engine_eq rfl (Nat.le_refl _) ?_
    intro b hb
    cases hb
    exact ⟨trivial, fun _ _ => rfl⟩
  · exact hSound.change_of_engine_eq rfl (Nat.le_succ _)
      fun _ hb => by cases hb

------------------------------------------------------------
-- Creating and Removing
------------------------------------------------------------

/- What it takes for a submission to be accepted. -/
theorem accept_cases
    {s : BatchSession κ}
    {p : Submission}
    {answer : Except StoreError (List Device)}
    {now : Instant}
    {o : BatchOperation}
    {engine : BatchEngine}
    (hOk : s.accept p answer now = .ok (o, engine)) :
    ∃ ids, p.request.targets.resolveWith
        (fun _ _ => answer) = .ok ids ∧
      s.engine.operations.get? p.id = none ∧
      o = .ofRequest p.request p.id ids now ∧
      engine = s.engine.insert o := by
  unfold accept BatchEngine.accept at hOk
  rcases bind_eq_ok_iff.1 hOk with ⟨ids, hIds, hKept⟩
  rcases bind_eq_ok_iff.1 hKept with ⟨_, hFree, hNew⟩
  cases hNew
  refine ⟨ids, hIds, ?_, rfl, rfl⟩
  unfold BatchEngine.checkFree at hFree
  split at hFree
  · cases hFree
  · rename_i hUnknown
    simpa [Dict.contains] using hUnknown

theorem Sound.change_resolve
    {s : BatchSession κ}
    (hSound : s.Sound)
    (ticket : Nat)
    (answer : Except StoreError (List Device))
    (now : Instant) :
    Change s (s.resolve ticket answer now) := by
  unfold resolve
  split
  · exact hSound.change_self
  · rename_i p hp
    dsimp only
    split
    · refine hSound.change_of_engine_eq rfl
        (Nat.le_refl _) ?_
      intro b hb
      cases hb
      exact ⟨trivial, fun _ _ => rfl⟩
    · rename_i o engine hOk
      rcases accept_cases hOk with
        ⟨ids, hIds, hFree, hNew, rfl⟩
      have hNamed : o.id = p.id := by
        rw [hNew]
        rfl
      have hOrderly : o.Orderly := by
        rw [hNew]
        exact .ofRequest _ _ _
          (BatchTargets.nodup_of_resolveWith hIds)
      refine change_of_busy ⟨hSound.engine.insert
        (hNamed ▸ hFree) hOrderly, hSound.tickets⟩ rfl
        (fun _ _ _ _ => .rfl) ?_ ?_
      · intro b hb
        cases hb
        refine ⟨⟨hNamed ▸ hFree, rfl, ?_⟩, fun _ _ => rfl⟩
        intro i x hx
        simp only [hNew, BatchOperation.ofRequest,
          List.getElem?_mapIdx, Option.map_eq_some_iff] at hx
        rcases hx with ⟨h, -, rfl⟩
        rfl
      · intro id o' hKept _
        have hNe : id ≠ o.id := by
          rintro rfl
          rcases exists_tracked hKept with ⟨t, hOperation, -⟩
          rw [hNamed, hFree] at hOperation
          cases hOperation
        refine ⟨o', ?_, rfl⟩
        simpa [BatchSession.get?, BatchEngine.get?,
          BatchEngine.insert, Dict.get?_insert, hNe]
          using hKept

theorem Sound.change_remove
    {s : BatchSession κ}
    (hSound : s.Sound)
    (id : String) :
    Change s (s.remove id) := by
  unfold remove
  split
  · refine hSound.change_of_engine_eq rfl (Nat.le_refl _) ?_
    intro b hb
    cases hb
    exact ⟨trivial, fun _ _ => rfl⟩
  · rename_i o engine hOk
    rcases BatchEngine.remove_cases hOk with
      ⟨t, hOperation, rfl, -, -, rfl⟩
    have hNamed :=
      (hSound.engine.sound id t hOperation).named
    refine change_of_busy ⟨hSound.engine.remove hOk,
      hSound.tickets⟩ rfl (fun _ _ _ _ => .rfl) ?_ ?_
    · intro b hb
      cases hb
      exact ⟨trivial, fun _ _ => rfl⟩
    · intro j o' hKept hStays
      have hNe : j ≠ id := by
        rintro rfl
        simpa [BatchNote.removes, hNamed] using
          hStays _ rfl
      refine ⟨o', ?_, rfl⟩
      simpa [BatchSession.get?, BatchEngine.get?, setEngine,
        Dict.get?_erase, hNe] using hKept

------------------------------------------------------------
-- Runs
------------------------------------------------------------

/- A run that is found is found under its ticket. -/
theorem exists_run
    {e : BatchEngine}
    {n : Nat}
    {r : BatchRun}
    (hRun : e.run? n = some r) :
    e.run? n = some ⟨n, r.operationId, r.phase⟩ := by
  rw [hRun, ← BatchEngine.ticket_of_run? hRun]

theorem Sound.change_process
    {s : BatchSession κ}
    (hSound : s.Sound)
    (id : String)
    (now : Instant) :
    Change s (s.process id now) := by
  unfold process
  split
  · refine hSound.change_of_engine_eq rfl (Nat.le_refl _) ?_
    intro b hb
    cases hb
    exact ⟨trivial, fun _ _ => rfl⟩
  · rename_i engine hOk
    have hTicket := hSound.tickets s.nextTicket (Nat.le_refl _)
    have hEnrolled :=
      BatchEngine.run?_enroll hTicket id
    have hQueued : (s.engine.enroll s.nextTicket id).run?
        s.nextTicket = some ⟨s.nextTicket, id, .queued⟩ := by
      simp [hEnrolled]
    have hBusy := BatchEngine.busy_enroll hTicket id
    have hFree : ∀ n, s.nextTicket + 1 ≤ n →
        (s.engine.enroll s.nextTicket id).run? n = none := by
      intro n hn
      have hNe : n ≠ s.nextTicket := by omega
      rw [hEnrolled, if_neg hNe]
      exact hSound.tickets n (by omega)
    have hEngine := hSound.engine.process hTicket hOk
    rcases BatchEngine.process_cases hOk with
      ⟨t, hOperation, ⟨-, rfl⟩ | ⟨-, rfl⟩⟩
    -- The operation is free, and the run gets hold of it.
    · refine change_of_busy ⟨hEngine, ?_⟩
        (BatchEngine.throttle_acquire _ _ _ _) ?_
        (fun _ hb => by cases hb) ?_
      · intro n hn
        exact (BatchEngine.run?_acquire_eq_none _ _ _ _ _).2
          (hFree n hn)
      · intro n j p hp
        exact (BatchEngine.busy_acquire now hQueued
          n j p hp).trans (hBusy n j p hp)
      · intro j o hKept _
        rcases exists_tracked hKept with ⟨u, hu, rfl⟩
        refine ⟨if j = id then u.operation.markStarted now
          else u.operation, ?_, ?_⟩
        · simp only [BatchSession.get?, BatchEngine.get?,
            BatchEngine.get?_acquire,
            BatchEngine.operations_enroll, hu]
          split <;> rfl
        · split <;> rfl
    -- Another run holds it, and this one waits in line.
    · refine change_of_busy ⟨hEngine, ?_⟩
        (BatchEngine.throttle_update _ _ _) ?_
        (fun _ hb => by cases hb) ?_
      · intro n hn
        rw [BatchEngine.run?_update]
        exact hFree n hn
      · intro n j p hp
        rw [BatchEngine.run?_update]
        exact hBusy n j p hp
      · intro j o hKept _
        rcases exists_tracked hKept with ⟨u, hu, rfl⟩
        refine ⟨u.operation, ?_, rfl⟩
        simp only [BatchSession.get?, BatchEngine.get?,
          BatchEngine.get?_update,
          BatchEngine.operations_enroll, hu]
        split <;> rfl

/- A change of phase leaves other tickets free. -/
theorem Sound.tickets_setPhase
    {s : BatchSession κ}
    (hSound : s.Sound)
    (n : Nat)
    (p : RunPhase)
    (m : Nat)
    (hm : s.nextTicket ≤ m) :
    (s.engine.setPhase n p).run? m = none := by
  rw [BatchEngine.run?_setPhase, hSound.tickets m hm]
  split <;> rfl

/- A run begins the action on the element before it. -/
theorem Sound.change_act
    {s : BatchSession κ}
    (hSound : s.Sound)
    {n : Nat}
    {id : String}
    {p : RunPhase}
    {x : BatchElement}
    {left : List BatchElement}
    (hRun : s.engine.run? n = some ⟨n, id, p⟩)
    (hAhead : p.ahead = x :: left)
    (hIdle : ∀ y rest, p ≠ .acting y rest)
    (hMay : s.status = .started ∨ p = .resting x left) :
    Change s (some (.began n id x s.status),
      s.setEngine (s.engine.setPhase n (.acting x left))) := by
  rcases hSound.engine.act hRun hAhead hIdle with
    ⟨hEngine, hBefore, hAfter⟩
  refine ⟨⟨hEngine, hSound.tickets_setPhase n _⟩, rfl,
    ?_, ?_, ?_⟩
  · intro m j y rest hRests
    exact .inl (BatchEngine.resting_of_setPhase hRests
      (fun hEq => by cases hEq))
  · intro b hb
    cases hb
    refine ⟨rfl, hMay.imp_right ?_⟩
    rintro rfl
    exact ⟨left, hRun⟩
  intro j o hKept _
  by_cases hj : j = id
  · subst hj
    rcases exists_tracked hKept with ⟨t, hOperation, rfl⟩
    have hHolds : p.holds = true := by
      cases p <;> first | rfl | cases hAhead
    have hRemaining := ((hSound.engine.sound j t
      hOperation).held n p hRun hHolds).2.1
    refine .began hKept (hRemaining.symm.trans hAhead)
      hBefore ?_
    intro m y
    refine (hAfter m j y).trans ?_
    simp [hBefore m y]
  · refine .quiet o hKept rfl ?_ ?_
    · intro m y
      refine (hAfter m j y).trans ?_
      simp [hj, Acts]
    · intro b hb i
      cases hb
      simp [BatchNote.concerns, Ne.symm hj]

/- A run that waits goes to rest, or stays as it is. -/
theorem Sound.change_wait
    {s : BatchSession κ}
    (hSound : s.Sound)
    {n : Nat}
    {id : String}
    {p q : RunPhase}
    (hRun : s.engine.run? n = some ⟨n, id, p⟩)
    (hWait : BatchEngine.nextPhase s.engine.throttle
      s.status p = (.wait, q))
    (hRests : q = p ∨
      (s.status = .started ∧ s.engine.throttle ≠ 0)) :
    Change s (none, s.setEngine (s.engine.setPhase n q)) := by
  rcases hSound.engine.wait hRun hWait with ⟨hEngine, hActs⟩
  refine ⟨⟨hEngine, hSound.tickets_setPhase n q⟩, rfl,
    ?_, (fun _ hb => by cases hb), ?_⟩
  · intro m j x left hAfter
    rcases hRests with rfl | hMay
    · have hSame := BatchEngine.run?_setPhase_self hRun m
      exact .inl (hSame.symm.trans hAfter)
    · exact .inr hMay
  · intro j o hKept _
    exact .quiet o hKept rfl (fun m x => hActs m j x)
      fun _ hb => by cases hb

/- A run at the gate ends, and its operation is answered. -/
theorem Sound.change_finish
    {s : BatchSession κ}
    (hSound : s.Sound)
    (now : Instant)
    {r : BatchRun}
    {left : List BatchElement}
    {first : Bool}
    (hFound : s.engine.run? r.ticket = some r)
    (hPhase : r.phase = .gate left first) :
    Change s ((s.setEngine
      (s.engine.setPhase r.ticket r.phase)).finish r now) := by
  have hRun := exists_run hFound
  have hSame := BatchEngine.run?_setPhase_self hRun
  have hSound' : (s.engine.setPhase r.ticket
      r.phase).Sound := hSound.engine.congr rfl hSame
  rcases hSound.engine.exists_operation hRun with
    ⟨t, hOperation⟩
  have hHere := hSound.engine.sound _ t hOperation
  have hGate : (s.engine.setPhase r.ticket
      r.phase).run? r.ticket =
        some ⟨r.ticket, r.operationId, .gate left first⟩ := by
    rw [hSame, hRun, hPhase]
  rcases hSound'.finish now hGate hOperation with
    ⟨hAnswer, hFinished, hGet, hFree, hThrottle, hBusy⟩
  have hFinish : (s.setEngine (s.engine.setPhase r.ticket
      r.phase)).finish r now =
        (some (.answered r.ticket r.operationId
            (t.operation.markEnded now)),
          s.setEngine ((s.engine.setPhase r.ticket
            r.phase).finish now r.ticket).2) := by
    simp [finish, setEngine, hAnswer]
  rw [hFinish]
  refine change_of_busy ⟨hFinished, ?_⟩ hThrottle ?_ ?_ ?_
  · intro m hm
    exact hFree m
      ((hSame m).trans (hSound.tickets m hm))
  · intro m j p hp
    rw [← hSame m]
    exact hBusy m j p hp
  · intro b hb
    cases hb
    refine ⟨⟨(hGet r.operationId).trans (if_pos rfl), ?_⟩,
      fun _ _ => rfl⟩
    rw [hHere.orderly.isSome_ended_markEnded now,
      BatchOperation.isFinished_markEnded]
  · intro j o hKept _
    by_cases hj : j = r.operationId
    · subst hj
      rcases exists_tracked hKept with ⟨u, hu, rfl⟩
      rw [hOperation] at hu
      cases hu
      exact ⟨t.operation.markEnded now,
        (hGet _).trans (if_pos rfl), by simp⟩
    · exact ⟨o, ((hGet j).trans (if_neg hj)).trans hKept,
        rfl⟩

theorem Sound.change_turn
    {s : BatchSession κ}
    (hSound : s.Sound)
    (ticket : Nat)
    (now : Instant) :
    Change s (s.turn ticket now) := by
  unfold turn
  cases hFound : s.engine.run? ticket with
  | none => exact hSound.change_self
  | some r =>
      have hRun := exists_run hFound
      simp only [BatchEngine.turn, hFound]
      rcases BatchEngine.nextPhase_cases s.engine.throttle
          s.status r.phase with
        h | ⟨x, left, -, hThrottle, hStatus, h⟩ |
          ⟨x, left, first, hPhase, -, hStatus, h⟩ |
          ⟨left, first, hPhase, h⟩
      · simp only [h]
        exact hSound.change_wait hRun h (.inl rfl)
      · simp only [h]
        exact hSound.change_wait hRun h
          (.inr ⟨hStatus, hThrottle⟩)
      · simp only [h]
        refine hSound.change_act hRun ?_ ?_ (.inl hStatus)
        · rw [hPhase]
          rfl
        · intro y rest hEq
          rw [hPhase] at hEq
          cases hEq
      · simp only [h]
        have hTicket := BatchEngine.ticket_of_run? hFound
        subst hTicket
        exact hSound.change_finish now hFound hPhase

theorem Sound.change_wake
    {s : BatchSession κ}
    (hSound : s.Sound)
    (ticket : Nat) :
    Change s (s.wake ticket) := by
  unfold wake
  split
  · rename_i n id x left hFound
    have hRun := exists_run hFound
    have hWake : (s.engine.wake ticket).2 =
        s.engine.setPhase ticket (.acting x left) := by
      simp [BatchEngine.wake, hFound]
    rw [hWake]
    refine hSound.change_act hRun rfl ?_ (.inr rfl)
    intro y rest hEq
    cases hEq
  · exact hSound.change_self

theorem Sound.change_settle
    {s : BatchSession κ}
    (hSound : s.Sound)
    (ticket : Nat)
    (now : Instant)
    (result : Except String (Dict String)) :
    Change s (s.settle ticket now result) := by
  unfold settle
  split
  · rename_i n id x left hFound
    have hRun := exists_run hFound
    have hEngine := hSound.engine
    have hActs := hEngine.acts_settle now result hRun
    refine ⟨⟨hEngine.settle now result hRun, ?_⟩, ?_, ?_,
      ?_, ?_⟩
    · intro m hm
      have hNone := hSound.tickets m hm
      simp only [setEngine, BatchEngine.settle, hFound,
        BatchEngine.run?_setPhase, BatchEngine.run?_update]
      split <;> simp [hNone]
    · simp only [setEngine, BatchEngine.settle, hFound]
      exact BatchEngine.throttle_update _ _ _
    · intro m j y rest hRests
      simp only [setEngine, BatchEngine.settle, hFound]
        at hRests
      have hRests' := BatchEngine.resting_of_setPhase hRests
        (fun hEq => by cases hEq)
      rw [BatchEngine.run?_update] at hRests'
      exact .inl hRests'
    · intro b hb
      cases hb
      trivial
    · intro j o hKept _
      rcases exists_tracked hKept with ⟨t, hOperation, rfl⟩
      by_cases hj : j = id
      · subst hj
        refine .ended ?_
          ((hEngine.sound j t hOperation).held ticket _ hRun
            rfl).2.1.symm ⟨left, hRun⟩ ?_
        · simp [BatchSession.get?, BatchEngine.get?,
            setEngine, BatchEngine.settle, hFound,
            BatchEngine.get?_update, hOperation]
        · intro m y hAfter
          exact ((hActs m j y).1 hAfter).1 rfl
      · refine .quiet t.operation ?_ rfl ?_ ?_
        · simp [BatchSession.get?, BatchEngine.get?,
            setEngine, BatchEngine.settle, hFound,
            BatchEngine.get?_update, hOperation, hj]
        · intro m y
          refine (hActs m j y).trans ?_
          simp [hj, Acts]
        · intro b hb i
          cases hb
          simp [BatchNote.concerns, Ne.symm hj]
  · exact hSound.change_self

------------------------------------------------------------
-- Steps and Runs
------------------------------------------------------------

/- What any move makes of a sound session. -/
theorem Sound.change_step
    {s : BatchSession κ}
    (hSound : s.Sound)
    (m : BatchMove κ) :
    Change s (s.step m) := by
  cases m with
  | submit r made => exact hSound.change_submit r made
  | resolve ticket answer now =>
      exact hSound.change_resolve ticket answer now
  | process id now => exact hSound.change_process id now
  | turn ticket now => exact hSound.change_turn ticket now
  | wake ticket => exact hSound.change_wake ticket
  | settle ticket now result =>
      exact hSound.change_settle ticket now result
  | get id =>
      refine hSound.change_of_engine_eq rfl
        (Nat.le_refl _) ?_
      intro b hb
      cases hb
      exact ⟨trivial, fun _ _ => rfl⟩
  | remove id => exact hSound.change_remove id
  | control hooks action =>
      refine hSound.change_of_engine_eq rfl
        (Nat.le_refl _) ?_
      intro b hb
      cases hb
      exact ⟨trivial, fun _ _ => rfl⟩
  | change status reason =>
      exact hSound.change_of_engine_eq rfl (Nat.le_refl _)
        fun _ hb => by cases hb

/- Any moves keep a session sound. -/
theorem Sound.run
    {s : BatchSession κ}
    (hSound : s.Sound)
    (moves : List (BatchMove κ)) :
    (s.run moves).2.Sound :=
  runAll_keeps (P := Sound)
    (fun _ m hSound => (hSound.change_step m).sound)
    hSound moves

/-
  What an operation has, and what it keeps by every effect of
  a move, it has after any moves that do not remove it.
-/
theorem Sound.keeps_run
    {s : BatchSession κ}
    {id : String}
    {o : BatchOperation}
    {P : List BatchNote → BatchSession κ →
      BatchOperation → Prop}
    (hStep : ∀ notes s s' p note, s.Sound →
      s.get? id = some p → P notes s p →
      Effect s s' id p note →
      ∃ q, s'.get? id = some q ∧
        P (notes ++ note.toList) s' q)
    (hSound : s.Sound)
    (hOperation : s.get? id = some o)
    (hBegin : P [] s o)
    (moves : List (BatchMove κ))
    (hKept : ∀ b ∈ (s.run moves).1, b.removes id = false) :
    ∃ p, (s.run moves).2.get? id = some p ∧
      P (s.run moves).1 (s.run moves).2 p := by
  refine (runAll_induct
    (P := fun _ (notes : List BatchNote)
        (s : BatchSession κ) =>
      s.Sound ∧ ((∀ b ∈ notes, b.removes id = false) →
        ∃ p, s.get? id = some p ∧ P notes s p))
    ?_ ⟨hSound, fun _ => ⟨o, hOperation, hBegin⟩⟩
    moves).2 hKept
  rintro - notes s m ⟨hSound, hSoFar⟩
  have hChange := hSound.change_step m
  refine ⟨hChange.sound, fun hKept => ?_⟩
  rcases hSoFar fun b hMem =>
      hKept b (List.mem_append_left _ hMem) with
    ⟨p, hHere, hBefore⟩
  have hNow : ∀ b, (s.step m).1 = some b →
      b.removes id = false := fun b hNote =>
    hKept b (List.mem_append_right _
      (Option.mem_toList.2 hNote))
  exact hStep notes s _ p _ hSound hHere hBefore
    (hChange.effect id p hHere hNow)

/- Some moves lead to a session from its beginning. -/
def Reachable
    (s : BatchSession κ) : Prop :=
  ∃ throttle component moves,
    ((new throttle component).run moves).2 = s

/- Sessions that can be reached are sound. -/
theorem Reachable.sound
    {s : BatchSession κ}
    (hReach : s.Reachable) :
    s.Sound := by
  rcases hReach with ⟨throttle, component, moves, rfl⟩
  refine Sound.run ⟨.new throttle, ?_⟩ moves
  intro n _
  rfl

/- Moves lead from where some led to where some lead. -/
theorem Reachable.run
    {s : BatchSession κ}
    (hReach : s.Reachable)
    (moves : List (BatchMove κ)) :
    (s.run moves).2.Reachable := by
  rcases hReach with ⟨throttle, component, first, rfl⟩
  refine ⟨throttle, component, first ++ moves, ?_⟩
  rw [BatchSession.run, runAll_append]
  rfl

------------------------------------------------------------
-- A Session
------------------------------------------------------------

/- A request to reboot two devices. -/
def rebootRequest : BatchRequest :=
  .new (.invokeCommand "reboot" .empty) (.devices ["a", "b"])

/- The operation that becomes of it under an id. -/
def rebootOperation : BatchOperation :=
  .ofRequest rebootRequest "r" ["a", "b"] default

/- An engine's component by itself. -/
def plainComponent : Tree Unit :=
  .leaf { Component.new () BatchEngine.componentName
    .batchOperationManager with canPause := true }

/- Hooks that do nothing, with success. -/
def plainHooks : Hooks Unit Unit :=
  fun _ _ _ => (.ok (), ())

/- The engine has been started and the request taken on. -/
def rebootSession
    (throttle : Nat) : BatchSession Unit :=
  ((new throttle plainComponent).run
    [.control plainHooks .start,
      .submit rebootRequest "r"]).2

theorem reachable_rebootSession
    (throttle : Nat) :
    (rebootSession throttle).Reachable :=
  ⟨throttle, plainComponent, _, rfl⟩

end BatchSession

end DeviceHub
