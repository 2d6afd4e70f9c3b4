import DeviceHub.Proofs.Batch.Engine

/-
  The turns of a run: it waits, begins the action on its
  next element, or ends.

  In a sound engine at most one action runs on the elements
  of an operation.  It runs on the first that remains, and a
  run that ends passes its operation on as it answers it.

  Key definitions include:
    * `BatchEngine.Acts`

  Main statements:
    * `BatchEngine.nextPhase_cases`
    * `BatchEngine.Sound.wait`
    * `BatchEngine.Sound.act`
    * `BatchEngine.Sound.acts_settle`
    * `BatchEngine.Sound.finish`
-/

------------------------------------------------------------
-- Running Actions
------------------------------------------------------------

namespace DeviceHub

namespace BatchEngine

/- The action on an element runs under a ticket. -/
def Acts
    (e : BatchEngine)
    (n : Nat)
    (id : String)
    (x : BatchElement) : Prop :=
  ∃ left, e.run? n = some ⟨n, id, .acting x left⟩

/- Runs that are the same run the same actions. -/
theorem acts_congr
    {e e' : BatchEngine}
    {n : Nat}
    (hRun : e'.run? n = e.run? n)
    (id : String)
    (x : BatchElement) :
    e'.Acts n id x ↔ e.Acts n id x := by
  simp [Acts, hRun]

/- An action runs on the first of the elements remaining. -/
theorem Sound.remaining_of_acts
    {e : BatchEngine}
    (hSound : e.Sound)
    {n : Nat}
    {id : String}
    {x : BatchElement}
    {t : TrackedOperation}
    (hOperation : e.operations.get? id = some t)
    (hActs : e.Acts n id x) :
    ∃ left, t.operation.remaining = x :: left := by
  rcases hActs with ⟨left, hRun⟩
  have hHere := hSound.sound id t hOperation
  exact ⟨left, (hHere.held n _ hRun rfl).2.1.symm⟩

/- Runs that act on the same elements run the same actions. -/
theorem acts_congr_of_busy
    {e e' : BatchEngine}
    {n : Nat}
    {id : String}
    (hBusy : ∀ p, p.busy = true →
      (e'.run? n = some ⟨n, id, p⟩ ↔
        e.run? n = some ⟨n, id, p⟩))
    (x : BatchElement) :
    e'.Acts n id x ↔ e.Acts n id x :=
  exists_congr fun left => hBusy (.acting x left) rfl

/- A new run neither acts nor rests. -/
theorem busy_enroll
    {e : BatchEngine}
    {n : Nat}
    (hFree : e.run? n = none)
    (id : String)
    (m : Nat)
    (j : String)
    (p : RunPhase)
    (hBusy : p.busy = true) :
    (e.enroll n id).run? m = some ⟨m, j, p⟩ ↔
      e.run? m = some ⟨m, j, p⟩ := by
  rw [run?_enroll hFree]
  by_cases hm : m = n
  · subst hm
    simp only [if_true, hFree, reduceCtorEq, iff_false]
    intro hEq
    cases hEq
    cases hBusy
  · simp [hm]

/- A run that gets hold of an operation is at the gate. -/
theorem busy_acquire
    {e : BatchEngine}
    (now : Instant)
    {n : Nat}
    {id : String}
    (hRun : e.run? n = some ⟨n, id, .queued⟩)
    (m : Nat)
    (j : String)
    (p : RunPhase)
    (hBusy : p.busy = true) :
    (e.acquire now n id).run? m = some ⟨m, j, p⟩ ↔
      e.run? m = some ⟨m, j, p⟩ := by
  cases hOperation : e.operations.get? id with
  | none => simp [acquire, hOperation]
  | some t =>
      rw [run?_acquire hOperation]
      by_cases hm : m = n
      · subst hm
        cases p with
        | queued => cases hBusy
        | gate => cases hBusy
        | resting => simp [hRun]
        | acting => simp [hRun]
      · simp [hm]

/-
  What a phase leads to: to wait, where the action of the
  run goes on if there is one; to act on the next element,
  when the engine is started and there is no rest to take;
  or to finish.
-/
theorem nextPhase_cases
    (throttle : Nat)
    (status : Status)
    (p : RunPhase) :
    nextPhase throttle status p = (.wait, p) ∨
      (∃ x left, p = .gate (x :: left) false ∧
        throttle ≠ 0 ∧ status = .started ∧
        nextPhase throttle status p =
          (.wait, .resting x left)) ∨
      (∃ x left first, p = .gate (x :: left) first ∧
        (first = true ∨ throttle = 0) ∧
        status = .started ∧
        nextPhase throttle status p =
          (.act x, .acting x left)) ∨
      ∃ left first, p = .gate left first ∧
        nextPhase throttle status p = (.finish, p) := by
  cases p with
  | queued => exact .inl rfl
  | resting x left => exact .inl rfl
  | acting x left => exact .inl rfl
  | gate left first =>
      cases left with
      | nil => exact .inr (.inr (.inr ⟨[], first, rfl, rfl⟩))
      | cons x left =>
          by_cases hPausing : status.isPausing = true
          · exact .inl (by simp [nextPhase, hPausing])
          by_cases hStarted : status = .started
          · subst hStarted
            cases first with
            | true =>
                exact .inr (.inr (.inl ⟨x, left, true, rfl,
                  .inl rfl, rfl, rfl⟩))
            | false =>
                by_cases hRest : throttle = 0
                · subst hRest
                  exact .inr (.inr (.inl ⟨x, left, false,
                    rfl, .inr rfl, rfl, rfl⟩))
                · refine .inr (.inl ⟨x, left, rfl, hRest,
                    rfl, ?_⟩)
                  simp [nextPhase, hRest, Status.isPausing]
          · refine .inr (.inr (.inr
              ⟨x :: left, first, rfl, ?_⟩))
            simp [nextPhase, hPausing, hStarted]

/- A run that has to wait keeps what it was doing. -/
theorem Sound.wait
    {e : BatchEngine}
    (hSound : e.Sound)
    {throttle n : Nat}
    {status : Status}
    {id : String}
    {p q : RunPhase}
    (hRun : e.run? n = some ⟨n, id, p⟩)
    (hWait : nextPhase throttle status p = (.wait, q)) :
    (e.setPhase n q).Sound ∧
      ∀ m j x, (e.setPhase n q).Acts m j x ↔
        e.Acts m j x := by
  rcases nextPhase_cases throttle status p with
    h | ⟨x, left, hPhase, -, -, h⟩ |
      ⟨x, left, first, -, -, -, h⟩ | ⟨left, first, -, h⟩
  · rw [hWait, Prod.mk.injEq] at h
    rcases h with ⟨-, rfl⟩
    have hSame := run?_setPhase_self hRun
    exact ⟨hSound.congr rfl hSame,
      fun m j x => acts_congr (hSame m) j x⟩
  · rw [hWait, Prod.mk.injEq] at h
    rcases h with ⟨-, rfl⟩
    subst hPhase
    refine ⟨hSound.setPhase hRun rfl rfl rfl, ?_⟩
    intro m j y
    simp only [Acts, run?_setPhase]
    by_cases hm : m = n
    · subst hm
      simp [hRun]
    · simp [hm]
  · rw [hWait] at h
    cases h
  · rw [hWait] at h
    cases h

/- A run begins the action on its next element. -/
theorem Sound.act
    {e : BatchEngine}
    (hSound : e.Sound)
    {n : Nat}
    {id : String}
    {p : RunPhase}
    {x : BatchElement}
    {left : List BatchElement}
    (hRun : e.run? n = some ⟨n, id, p⟩)
    (hAhead : p.ahead = x :: left)
    (hIdle : ∀ y rest, p ≠ .acting y rest) :
    (e.setPhase n (.acting x left)).Sound ∧
      (∀ m y, ¬ e.Acts m id y) ∧
      ∀ m j y, (e.setPhase n (.acting x left)).Acts m j y ↔
        (m = n ∧ j = id ∧ y = x) ∨ e.Acts m j y := by
  have hHolds : p.holds = true := by
    cases p <;> first | rfl | cases hAhead
  rcases hSound.exists_operation hRun with ⟨t, hOperation⟩
  have hHere := hSound.sound id t hOperation
  refine ⟨hSound.setPhase hRun hHolds rfl hAhead.symm,
    ?_, ?_⟩
  · rintro m y ⟨rest, hActs⟩
    have hEq := hHere.holder_unique hActs rfl hRun hHolds
    subst hEq
    rw [hRun] at hActs
    cases hActs
    exact hIdle y rest rfl
  · intro m j y
    simp only [Acts, run?_setPhase]
    by_cases hm : m = n
    · subst hm
      simp only [if_true, hRun, Option.map_some,
        Option.some.injEq, BatchRun.mk.injEq,
        RunPhase.acting.injEq, true_and]
      constructor
      · rintro ⟨rest, hj, hy, -⟩
        exact .inl ⟨hj.symm, hy.symm⟩
      · rintro (⟨hj, hy⟩ | ⟨rest, -, hActs⟩)
        · exact ⟨left, hj.symm, hy.symm, rfl⟩
        · exact absurd hActs (hIdle y rest)
    · simp [hm]

/- The action of a run ends, and no other action does. -/
theorem Sound.acts_settle
    {e : BatchEngine}
    (hSound : e.Sound)
    (now : Instant)
    {n : Nat}
    {id : String}
    {x : BatchElement}
    {left : List BatchElement}
    (result : Except String (Dict String))
    (hRun : e.run? n = some ⟨n, id, .acting x left⟩)
    (m : Nat)
    (j : String)
    (y : BatchElement) :
    (e.settle now n result).Acts m j y ↔
      j ≠ id ∧ e.Acts m j y := by
  rcases hSound.exists_operation hRun with ⟨t, hOperation⟩
  have hHere := hSound.sound id t hOperation
  simp only [Acts, BatchEngine.settle, hRun, run?_setPhase,
    run?_update]
  by_cases hm : m = n
  · subst hm
    simp only [if_true, hRun, Option.map_some,
      Option.some.injEq, BatchRun.mk.injEq, reduceCtorEq,
      and_false, exists_false, false_iff, true_and,
      RunPhase.acting.injEq]
    rintro ⟨hj, rest, hEq, -⟩
    exact hj hEq.symm
  · simp only [hm, if_false]
    constructor
    · rintro ⟨rest, hActs⟩
      refine ⟨?_, rest, hActs⟩
      intro hj
      subst hj
      exact hm (hHere.holder_unique hActs rfl hRun rfl)
    · exact And.right

------------------------------------------------------------
-- Handing Over and Finishing
------------------------------------------------------------

/- Passing an operation on does not change it. -/
theorem get?_handOver
    {e : BatchEngine}
    (now : Instant)
    {id : String}
    {t : TrackedOperation}
    (hOperation : e.operations.get? id = some t)
    (hStarted :
      t.operation.processingStartedDate.isSome = true)
    (j : String) :
    (e.handOver now id).get? j = e.get? j := by
  have hSame :=
    BatchOperation.markStarted_eq_self now hStarted
  unfold handOver get?
  simp only [hOperation]
  cases t.waiting with
  | nil =>
      simp only [get?_update]
      by_cases hj : j = id
      · subst hj
        simp [hOperation]
      · simp [hj]
  | cons next rest =>
      simp only [get?_acquire, get?_update]
      by_cases hj : j = id
      · subst hj
        simp [hOperation, hSame]
      · simp [hj]

/- Passing an operation on makes no run and ends none. -/
theorem run?_handOver_eq_none
    (e : BatchEngine)
    (now : Instant)
    (id : String)
    (m : Nat) :
    (e.handOver now id).run? m = none ↔
      e.run? m = none := by
  unfold handOver
  cases e.operations.get? id with
  | none => rfl
  | some t =>
      dsimp only
      cases t.waiting with
      | nil => simp
      | cons next rest => simp [run?_acquire_eq_none]

/- Passing an operation on leads no run to an element. -/
theorem Sound.busy_handOver
    {e : BatchEngine}
    (hSound : e.Sound)
    (now : Instant)
    (id : String)
    (m : Nat)
    (j : String)
    (p : RunPhase)
    (hBusy : p.busy = true) :
    (e.handOver now id).run? m = some ⟨m, j, p⟩ ↔
      e.run? m = some ⟨m, j, p⟩ := by
  unfold BatchEngine.handOver
  cases hOperation : e.operations.get? id with
  | none => rfl
  | some t =>
      cases hWaiting : t.waiting with
      | nil =>
          simp only [hWaiting]
          rw [run?_update]
      | cons next rest =>
          simp only [hWaiting]
          have hNext : e.run? next =
              some ⟨next, id, .queued⟩ := by
            have hHere := hSound.sound id t hOperation
            refine (hHere.queued next).1 ?_
            rw [hWaiting]
            exact List.mem_cons_self
          rw [busy_acquire now (by simpa using hNext) m j p
            hBusy, run?_update]

/- An operation is marked as ended by the run at the gate. -/
theorem Sound.markEnded
    {e : BatchEngine}
    (hSound : e.Sound)
    (now : Instant)
    {n : Nat}
    {id : String}
    {left : List BatchElement}
    {first : Bool}
    (hRun : e.run? n = some ⟨n, id, .gate left first⟩) :
    (e.update id fun t => { t with
      operation := t.operation.markEnded now }).Sound := by
  rcases hSound.exists_operation hRun with ⟨t, hOperation⟩
  have hHere := hSound.sound id t hOperation
  rcases hHere.held n _ hRun rfl with
    ⟨-, hRemaining, hStarted⟩
  refine hSound.advance hRun rfl hOperation ?_
    (o := t.operation.markEnded now) ?_
    (fun m _ => run?_update e id _ m)
    ((run?_update e id _ n).trans hRun) rfl ?_
    (hHere.orderly.markEnded now hStarted) ?_ ?_
  · intro j hj
    simp [get?_update, hj]
  · simp [get?_update, hOperation]
  · simpa using hHere.named
  · simpa using hRemaining
  · simpa using hStarted

/- Without its holder, nobody holds an operation. -/
theorem Sound.not_holds_of_forget
    {e : BatchEngine}
    (hSound : e.Sound)
    {n m : Nat}
    {id : String}
    {p q : RunPhase}
    (hRun : e.run? n = some ⟨n, id, p⟩)
    (hHolds : p.holds = true)
    (hOther : (e.forget n).run? m = some ⟨m, id, q⟩) :
    q.holds = false := by
  rw [run?_forget] at hOther
  split at hOther
  · cases hOther
  · rename_i hNe
    rcases hSound.exists_operation hRun with ⟨t, hOperation⟩
    cases hHolds' : q.holds with
    | false => rfl
    | true =>
        exact absurd ((hSound.sound id t
          hOperation).holder_unique hOther hHolds' hRun
          hHolds) hNe

/-
  A run that holds its operation and does not act ends: it
  answers with the operation, which is kept as answered.
-/
theorem Sound.finish
    {e : BatchEngine}
    (hSound : e.Sound)
    (now : Instant)
    {n : Nat}
    {id : String}
    {left : List BatchElement}
    {first : Bool}
    {t : TrackedOperation}
    (hRun : e.run? n = some ⟨n, id, .gate left first⟩)
    (hOperation : e.operations.get? id = some t) :
    let r := e.finish now n
    r.1 = some (t.operation.markEnded now) ∧
      r.2.Sound ∧
      (∀ j, r.2.get? j =
        if j = id then some (t.operation.markEnded now)
        else e.get? j) ∧
      (∀ m, e.run? m = none → r.2.run? m = none) ∧
      r.2.throttle = e.throttle ∧
      ∀ m j p, p.busy = true →
        (r.2.run? m = some ⟨m, j, p⟩ ↔
          e.run? m = some ⟨m, j, p⟩) := by
  have hStarted := ((hSound.sound id t hOperation).held n _
    hRun rfl).2.2
  let marked := e.update id fun t =>
    { t with operation := t.operation.markEnded now }
  have hKept : marked.operations.get? id = some { t with
      operation := t.operation.markEnded now } := by
    simp [marked, get?_update, hOperation]
  have hRun' : marked.run? n =
      some ⟨n, id, .gate left first⟩ :=
    (run?_update e id _ n).trans hRun
  have hMarked : marked.Sound := hSound.markEnded now hRun
  have hForgotten := hMarked.forget hRun' rfl
  have hFinish : e.finish now n =
      (some (t.operation.markEnded now),
        (marked.forget n).handOver now id) := by
    simp only [BatchEngine.finish, hRun]
    change (marked.get? id, _) = _
    simp only [get?, hKept, Option.map_some]
    rfl
  rw [hFinish]
  refine ⟨rfl, hForgotten.handOver now ?_, ?_, ?_, ?_, ?_⟩
  · intro m p hm
    exact hMarked.not_holds_of_forget hRun' rfl hm
  · intro j
    rw [get?_handOver (e := marked.forget n) now hKept
      (by simpa using hStarted) j]
    simp only [get?, operations_forget]
    by_cases hj : j = id
    · subst hj
      simp [hKept]
    · simp [marked, get?_update, hj]
  · intro m hm
    rw [run?_handOver_eq_none, run?_forget]
    split
    · rfl
    · rw [run?_update]
      exact hm
  · change (BatchEngine.handOver _ now id).throttle = _
    rw [throttle_handOver]
    exact throttle_update _ _ _
  · intro m j p hBusy
    rw [hForgotten.busy_handOver now id m j p hBusy,
      run?_forget]
    by_cases hm : m = n
    · subst hm
      cases p with
      | queued => cases hBusy
      | gate => cases hBusy
      | resting => simp [hRun]
      | acting => simp [hRun]
    · simp [hm, marked]

end BatchEngine

end DeviceHub
