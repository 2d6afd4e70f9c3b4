import DeviceHub.Proofs.Batch.Views

/-
  How the batch engine keeps operations and runs together.

  A run of an operation waits for it or holds it.  The one
  that holds it has before it exactly the elements that
  remain, so what it knows of them is still true when it
  writes a result back.  Every change is to one operation
  and its runs, and leaves the others alone.

  Key definitions include:
    * `RunPhase.ahead`
    * `TrackedOperation.Sound`
    * `BatchEngine.Sound`

  Main statements:
    * `BatchEngine.Sound.replace`
    * `BatchEngine.Sound.insert`
    * `BatchEngine.Sound.remove`
    * `BatchEngine.Sound.process`
    * `BatchEngine.Sound.setPhase`
    * `BatchEngine.Sound.settle`
    * `BatchEngine.Sound.handOver`
-/

------------------------------------------------------------
-- Sound Engines
------------------------------------------------------------

namespace DeviceHub

namespace RunPhase

/- The elements before a run, the one it is at included. -/
def ahead : RunPhase → List BatchElement
  | queued => []
  | gate left _ => left
  | resting x left => x :: left
  | acting x left => x :: left

/- Whether a run has got hold of its operation. -/
def holds : RunPhase → Bool
  | queued => false
  | _ => true

/- Whether a run has gone beyond the gate to an element. -/
def busy : RunPhase → Bool
  | resting .. => true
  | acting .. => true
  | _ => false

/- A run that does not hold its operation is queued. -/
theorem eq_queued_of_not_holds
    {p : RunPhase}
    (hHolds : p.holds = false) :
    p = .queued := by
  cases p <;> first | rfl | cases hHolds

end RunPhase

/-
  How an operation is kept under its id, given the runs.
  Runs that wait for it are in its line.  One that holds it
  is its holder, has begun to process it, and has before it
  what remains.
-/
structure TrackedOperation.Sound
    (t : TrackedOperation)
    (id : String)
    (run? : Nat → Option BatchRun) : Prop where
  named : t.operation.id = id
  orderly : t.operation.Orderly
  queued : ∀ n, n ∈ t.waiting ↔
    run? n = some ⟨n, id, .queued⟩
  held : ∀ n p, run? n = some ⟨n, id, p⟩ →
    p.holds = true →
    t.holder = some n ∧
      p.ahead = t.operation.remaining ∧
      t.operation.processingStartedDate.isSome = true
  lined : t.waiting.Nodup
  free : t.holder = none → t.waiting = []

/- Every run is of an operation that is kept soundly. -/
structure BatchEngine.Sound
    (e : BatchEngine) : Prop where
  kept : ∀ n id p, e.run? n = some ⟨n, id, p⟩ →
    (e.operations.get? id).isSome = true
  sound : ∀ id t, e.operations.get? id = some t →
    t.Sound id e.run?

namespace TrackedOperation.Sound

variable {t : TrackedOperation}
variable {id : String}
variable {run? run?' : Nat → Option BatchRun}

/- Only the runs of the operation matter. -/
theorem congr_runs
    (hSound : t.Sound id run?)
    (hRuns : ∀ n p,
      run?' n = some ⟨n, id, p⟩ ↔
        run? n = some ⟨n, id, p⟩) :
    t.Sound id run?' where
  named := hSound.named
  orderly := hSound.orderly
  queued := fun n => by rw [hRuns, hSound.queued]
  held := fun n p hRun =>
    hSound.held n p ((hRuns n p).1 hRun)
  lined := hSound.lined
  free := hSound.free

/- An operation without a holder has no runs. -/
theorem no_run_of_free
    (hSound : t.Sound id run?)
    (hFree : t.holder = none)
    (n : Nat)
    (p : RunPhase) :
    run? n ≠ some ⟨n, id, p⟩ := by
  intro hRun
  cases hHolds : p.holds with
  | true =>
      have hHolder := (hSound.held n p hRun hHolds).1
      rw [hFree] at hHolder
      cases hHolder
  | false =>
      rw [RunPhase.eq_queued_of_not_holds hHolds] at hRun
      have hWaiting := (hSound.queued n).2 hRun
      rw [hSound.free hFree] at hWaiting
      cases hWaiting

/- Two runs that hold the operation are the same. -/
theorem holder_unique
    (hSound : t.Sound id run?)
    {n m : Nat}
    {p q : RunPhase}
    (hRun : run? n = some ⟨n, id, p⟩)
    (hHolds : p.holds = true)
    (hRun' : run? m = some ⟨m, id, q⟩)
    (hHolds' : q.holds = true) :
    n = m := by
  have hLeft := (hSound.held n p hRun hHolds).1
  have hRight := (hSound.held m q hRun' hHolds').1
  rw [hLeft] at hRight
  exact Option.some.inj hRight

/- Who waits in line has a run. -/
theorem not_waiting_of_free
    (hSound : t.Sound id run?)
    {n : Nat}
    (hFree : run? n = none) :
    n ∉ t.waiting := by
  intro hWaiting
  have hRun := (hSound.queued n).1 hWaiting
  rw [hFree] at hRun
  cases hRun

/-
  A run gets hold of an operation that nobody holds any
  longer, having left the line if it was there.
-/
theorem acquired
    {n : Nat}
    (now : Instant)
    (hNamed : t.operation.id = id)
    (hOrderly : t.operation.Orderly)
    (hQueued : ∀ m, m ≠ n →
      (m ∈ t.waiting ↔ run? m = some ⟨m, id, .queued⟩))
    (hLeft : n ∉ t.waiting)
    (hNobody : ∀ m p, m ≠ n →
      run? m = some ⟨m, id, p⟩ → p.holds = false)
    (hLined : t.waiting.Nodup)
    (hRun : run?' n =
      some ⟨n, id, .gate t.operation.remaining true⟩)
    (hOthers : ∀ m, m ≠ n → run?' m = run? m) :
    TrackedOperation.Sound
      { t with
        operation := t.operation.markStarted now
        holder := some n }
      id run?' where
  named := hNamed
  orderly := hOrderly.markStarted now
  queued := by
    intro m
    by_cases hm : m = n
    · subst hm
      simp [hLeft, hRun]
    · rw [hOthers m hm]
      exact hQueued m hm
  held := by
    intro m p hRun' hHolds
    by_cases hm : m = n
    · subst hm
      rw [hRun] at hRun'
      cases hRun'
      simp [RunPhase.ahead]
    · rw [hOthers m hm] at hRun'
      rw [hNobody m p hm hRun'] at hHolds
      cases hHolds
  lined := hLined
  free := by
    intro hFree
    cases hFree

/- A run joins the line for an operation that is held. -/
theorem enqueued
    (hSound : t.Sound id run?)
    {n : Nat}
    (hHeld : t.holder ≠ none)
    (hFree : run? n = none)
    (hRun : run?' n = some ⟨n, id, .queued⟩)
    (hOthers : ∀ m, m ≠ n → run?' m = run? m) :
    TrackedOperation.Sound
      { t with waiting := t.waiting ++ [n] } id run?' where
  named := hSound.named
  orderly := hSound.orderly
  queued := by
    intro m
    by_cases hm : m = n
    · subst hm
      simp [hRun]
    · rw [hOthers m hm, ← hSound.queued m]
      simp [hm]
  held := by
    intro m p hRun' hHolds
    by_cases hm : m = n
    · subst hm
      rw [hRun] at hRun'
      cases hRun'
      cases hHolds
    · rw [hOthers m hm] at hRun'
      exact hSound.held m p hRun' hHolds
  lined := by
    have hNew := hSound.not_waiting_of_free hFree
    refine List.nodup_append.2 ⟨hSound.lined, by simp, ?_⟩
    intro m hm k hk hEq
    rw [List.mem_singleton.1 hk] at hEq
    exact hNew (hEq ▸ hm)
  free := fun hFree => absurd hFree hHeld

end TrackedOperation.Sound

end DeviceHub

------------------------------------------------------------
-- Sound Changes
------------------------------------------------------------

namespace DeviceHub

namespace BatchEngine

/- What it takes to begin to process an operation. -/
theorem process_cases
    {e e' : BatchEngine}
    {status : Status}
    {now : Instant}
    {n : Nat}
    {id : String}
    (hOk : e.process status now n id = .ok e') :
    ∃ t, e.operations.get? id = some t ∧
      ((t.holder = none ∧
          e' = (e.enroll n id).acquire now n id) ∨
        (t.holder ≠ none ∧
          e' = (e.enroll n id).update id fun t =>
            { t with waiting := t.waiting ++ [n] })) := by
  unfold process at hOk
  split at hOk
  · cases hOk
  · cases hOperation : e.operations.get? id with
    | none => simp [hOperation] at hOk
    | some t =>
        refine ⟨t, rfl, ?_⟩
        simp only [hOperation] at hOk
        split at hOk <;> rename_i hHolder
        · refine .inl ⟨?_, (Except.ok.inj hOk).symm⟩
          simpa using hHolder
        · refine .inr ⟨?_, (Except.ok.inj hOk).symm⟩
          simpa using hHolder

/- What it takes to give up an operation. -/
theorem remove_cases
    {e e' : BatchEngine}
    {id : String}
    {o : BatchOperation}
    (hOk : e.remove id = .ok (o, e')) :
    ∃ t, e.operations.get? id = some t ∧
      t.operation = o ∧ t.holder = none ∧
      o.isFinished = true ∧
      e' = { e with operations := e.operations.erase id } := by
  unfold remove at hOk
  cases hOperation : e.operations.get? id with
  | none => simp [hOperation] at hOk
  | some t =>
      simp only [hOperation] at hOk
      split at hOk
      · cases hOk
      · rename_i hIdle
        cases hOk
        refine ⟨t, rfl, rfl, ?_, ?_, rfl⟩ <;>
          simp_all

namespace Sound

variable {e e' : BatchEngine}

/- An engine without operations is sound. -/
theorem new
    (throttle : Nat) :
    (BatchEngine.new throttle).Sound where
  kept := fun n id p hRun => by
    cases hRun
  sound := fun id t hOperation => by
    cases hOperation

/-
  A change to one operation and its runs is sound if what it
  makes of them is.
-/
theorem replace
    (hSound : e.Sound)
    (id : String)
    (hOthers : ∀ j, j ≠ id →
      e'.operations.get? j = e.operations.get? j)
    (hRuns : ∀ n j p, j ≠ id →
      (e'.run? n = some ⟨n, j, p⟩ ↔
        e.run? n = some ⟨n, j, p⟩))
    (hKept : ∀ n p, e'.run? n = some ⟨n, id, p⟩ →
      (e'.operations.get? id).isSome = true)
    (hHere : ∀ t, e'.operations.get? id = some t →
      t.Sound id e'.run?) :
    e'.Sound where
  kept := by
    intro n j p hRun
    by_cases hj : j = id
    · subst hj
      exact hKept n p hRun
    · rw [hOthers j hj]
      exact hSound.kept n j p ((hRuns n j p hj).1 hRun)
  sound := by
    intro j t hOperation
    by_cases hj : j = id
    · subst hj
      exact hHere t hOperation
    · rw [hOthers j hj] at hOperation
      exact (hSound.sound j t hOperation).congr_runs
        fun n p => hRuns n j p hj

/- Only the operations and the runs matter. -/
theorem congr
    (hSound : e.Sound)
    (hOperations : e'.operations = e.operations)
    (hRuns : ∀ n, e'.run? n = e.run? n) :
    e'.Sound where
  kept := by
    intro n id p hRun
    rw [hOperations]
    exact hSound.kept n id p (hRuns n ▸ hRun)
  sound := by
    intro id t hOperation
    rw [hOperations] at hOperation
    refine (hSound.sound id t hOperation).congr_runs ?_
    intro n p
    rw [hRuns]

/- An id that is not taken has no runs. -/
theorem no_run_of_unknown
    (hSound : e.Sound)
    {id : String}
    (hUnknown : e.operations.get? id = none)
    (n : Nat)
    (p : RunPhase) :
    e.run? n ≠ some ⟨n, id, p⟩ := by
  intro hRun
  have hKept := hSound.kept n id p hRun
  rw [hUnknown] at hKept
  cases hKept

/- A new operation under a free id. -/
theorem insert
    (hSound : e.Sound)
    {o : BatchOperation}
    (hFree : e.operations.get? o.id = none)
    (hOrderly : o.Orderly) :
    (e.insert o).Sound := by
  have hNoRun := hSound.no_run_of_unknown hFree
  refine hSound.replace o.id ?_ (fun _ _ _ _ => .rfl) ?_ ?_
  · intro j hj
    simp [BatchEngine.insert, Dict.get?_insert, hj]
  · intro n p hRun
    exact absurd hRun (hNoRun n p)
  · intro t hOperation
    simp only [BatchEngine.insert, Dict.get?_insert_self,
      Option.some.injEq] at hOperation
    subst hOperation
    refine ⟨rfl, hOrderly, ?_, ?_, .nil, fun _ => rfl⟩
    · intro n
      constructor
      · intro hWaiting
        cases hWaiting
      · intro hRun
        exact absurd hRun (hNoRun n .queued)
    · intro n p hRun
      exact absurd hRun (hNoRun n p)

/- An operation is given up. -/
theorem remove
    (hSound : e.Sound)
    {id : String}
    {o : BatchOperation}
    (hOk : e.remove id = .ok (o, e')) :
    e'.Sound := by
  rcases remove_cases hOk with
    ⟨t, hOperation, -, hFree, -, rfl⟩
  have hNoRun :=
    (hSound.sound id t hOperation).no_run_of_free hFree
  refine hSound.replace id ?_ (fun _ _ _ _ => .rfl) ?_ ?_
  · intro j hj
    simp [Dict.get?_erase, hj]
  · intro n p hRun
    exact absurd hRun (hNoRun n p)
  · intro t' hOperation'
    simp [Dict.get?_erase] at hOperation'

/- A new run gets hold of an operation or waits for it. -/
theorem process
    (hSound : e.Sound)
    {status : Status}
    {now : Instant}
    {n : Nat}
    {id : String}
    (hTicket : e.run? n = none)
    (hOk : e.process status now n id = .ok e') :
    e'.Sound := by
  rcases process_cases hOk with ⟨t, hOperation, hCases⟩
  have hHere := hSound.sound id t hOperation
  have hKnown : (e.enroll n id).operations.get? id = some t :=
    hOperation
  have hEnrolled := run?_enroll hTicket id
  rcases hCases with ⟨hFree, rfl⟩ | ⟨hHeld, rfl⟩
  · have hNoRun := hHere.no_run_of_free hFree
    refine hSound.replace id ?_ ?_ ?_ ?_
    · intro j hj
      simp [get?_acquire, hj]
    · intro m j p hj
      rw [run?_acquire hKnown, hEnrolled]
      by_cases hm : m = n
      · subst hm
        simp [hTicket, hj.symm]
      · simp [hm]
    · intro m p _
      simp [get?_acquire, hOperation]
    · intro t' hOperation'
      simp only [get?_acquire, hKnown, if_true,
        Option.map_some, Option.some.injEq] at hOperation'
      subst hOperation'
      refine TrackedOperation.Sound.acquired now
        hHere.named hHere.orderly
        (fun m _ => hHere.queued m)
        (hHere.not_waiting_of_free hTicket)
        (fun m p _ hRun => absurd hRun (hNoRun m p))
        hHere.lined ?_ ?_
      · rw [run?_acquire hKnown, hEnrolled]
        simp
      · intro m hm
        rw [run?_acquire hKnown, hEnrolled]
        simp [hm]
  · refine hSound.replace id ?_ ?_ ?_ ?_
    · intro j hj
      simp [get?_update, hj]
    · intro m j p hj
      rw [run?_update, hEnrolled]
      by_cases hm : m = n
      · subst hm
        simp [hTicket, hj.symm]
      · simp [hm]
    · intro m p _
      simp [get?_update, hOperation]
    · intro t' hOperation'
      simp only [get?_update, hKnown, if_true,
        Option.map_some, Option.some.injEq] at hOperation'
      subst hOperation'
      refine hHere.enqueued hHeld hTicket ?_ ?_
      · rw [run?_update, hEnrolled]
        simp
      · intro m hm
        rw [run?_update, hEnrolled]
        simp [hm]

/-
  The run that holds an operation changes its phase, and the
  operation with it.
-/
theorem advance
    (hSound : e.Sound)
    {n : Nat}
    {id : String}
    {p q : RunPhase}
    {t : TrackedOperation}
    {o : BatchOperation}
    (hRun : e.run? n = some ⟨n, id, p⟩)
    (hHolds : p.holds = true)
    (hOperation : e.operations.get? id = some t)
    (hOthers : ∀ j, j ≠ id →
      e'.operations.get? j = e.operations.get? j)
    (hOperation' : e'.operations.get? id =
      some { t with operation := o })
    (hRuns : ∀ m, m ≠ n → e'.run? m = e.run? m)
    (hRun' : e'.run? n = some ⟨n, id, q⟩)
    (hHolds' : q.holds = true)
    (hNamed : o.id = id)
    (hOrderly : o.Orderly)
    (hAhead : q.ahead = o.remaining)
    (hStarted : o.processingStartedDate.isSome = true) :
    e'.Sound := by
  have hHere := hSound.sound id t hOperation
  have hHolder := (hHere.held n p hRun hHolds).1
  have hBusy : ∀ {r : RunPhase}, r.holds = true →
      r ≠ .queued := by
    intro r hr hEq
    rw [hEq] at hr
    cases hr
  refine hSound.replace id hOthers ?_ ?_ ?_
  · intro m j r hj
    by_cases hm : m = n
    · subst hm
      simp [hRun, hRun', hj.symm]
    · rw [hRuns m hm]
  · intro m r _
    simp [hOperation']
  · intro t' ht'
    rw [hOperation', Option.some.injEq] at ht'
    subst ht'
    refine ⟨hNamed, hOrderly, ?_, ?_, hHere.lined,
      hHere.free⟩
    · intro m
      rw [hHere.queued m]
      by_cases hm : m = n
      · subst hm
        simp [hRun, hRun', hBusy hHolds, hBusy hHolds']
      · rw [hRuns m hm]
    · intro m r hr hHoldsR
      by_cases hm : m = n
      · subst hm
        rw [hRun'] at hr
        cases hr
        exact ⟨hHolder, hAhead, hStarted⟩
      · rw [hRuns m hm] at hr
        exact absurd (hHere.holder_unique hr hHoldsR
          hRun hHolds) hm

/- The operation of a run is kept. -/
theorem exists_operation
    (hSound : e.Sound)
    {n : Nat}
    {id : String}
    {p : RunPhase}
    (hRun : e.run? n = some ⟨n, id, p⟩) :
    ∃ t, e.operations.get? id = some t :=
  Option.isSome_iff_exists.1 (hSound.kept n id p hRun)

/-
  A run that holds its operation goes to another phase with
  the same elements before it.
-/
theorem setPhase
    (hSound : e.Sound)
    {n : Nat}
    {id : String}
    {p q : RunPhase}
    (hRun : e.run? n = some ⟨n, id, p⟩)
    (hHolds : p.holds = true)
    (hHolds' : q.holds = true)
    (hAhead : q.ahead = p.ahead) :
    (e.setPhase n q).Sound := by
  rcases hSound.exists_operation hRun with ⟨t, hOperation⟩
  have hHere := hSound.sound id t hOperation
  rcases hHere.held n p hRun hHolds with
    ⟨-, hRemaining, hStarted⟩
  refine hSound.advance hRun hHolds hOperation
    (fun _ _ => rfl) hOperation ?_ ?_ hHolds' hHere.named
    hHere.orderly (hAhead.trans hRemaining) hStarted
  · intro m hm
    simp [run?_setPhase, hm]
  · simp [run?_setPhase, hRun]

/- The result of an action is written back. -/
theorem settle
    (hSound : e.Sound)
    (now : Instant)
    {n : Nat}
    {id : String}
    {x : BatchElement}
    {left : List BatchElement}
    (result : Except String (Dict String))
    (hRun : e.run? n = some ⟨n, id, .acting x left⟩) :
    (e.settle now n result).Sound := by
  rcases hSound.exists_operation hRun with ⟨t, hOperation⟩
  have hHere := hSound.sound id t hOperation
  rcases hHere.held n _ hRun rfl with
    ⟨-, hRemaining, hStarted⟩
  have hNext : t.operation.remaining = x :: left :=
    hRemaining.symm
  refine hSound.advance hRun rfl hOperation ?_
    (q := .gate left false)
    (o := t.operation.settle x.index now result)
    ?_ ?_ ?_ rfl hHere.named
    (hHere.orderly.settle hNext hStarted now result)
    (hHere.orderly.remaining_settle hNext now result).symm
    hStarted
  · intro j hj
    simp [BatchEngine.settle, hRun, get?_update, hj]
  · simp [BatchEngine.settle, hRun, get?_update, hOperation]
  · intro m hm
    simp [BatchEngine.settle, hRun, run?_setPhase, hm]
  · simp [BatchEngine.settle, hRun, run?_setPhase]

/- A run is forgotten. -/
theorem forget
    (hSound : e.Sound)
    {n : Nat}
    {id : String}
    {p : RunPhase}
    (hRun : e.run? n = some ⟨n, id, p⟩)
    (hHolds : p.holds = true) :
    (e.forget n).Sound := by
  refine hSound.replace id (fun _ _ => rfl) ?_ ?_ ?_
  · intro m j q hj
    rw [run?_forget]
    by_cases hm : m = n
    · subst hm
      simp [hRun, hj.symm]
    · simp [hm]
  · intro m q _
    exact hSound.kept n id p hRun
  · intro t hOperation
    have hHere := hSound.sound id t hOperation
    refine ⟨hHere.named, hHere.orderly, ?_, ?_,
      hHere.lined, hHere.free⟩
    · intro m
      rw [hHere.queued m, run?_forget]
      by_cases hm : m = n
      · subst hm
        cases p <;> simp_all [RunPhase.holds]
      · simp [hm]
    · intro m q hq hHoldsQ
      rw [run?_forget] at hq
      by_cases hm : m = n
      · simp [hm] at hq
      · rw [if_neg hm] at hq
        exact hHere.held m q hq hHoldsQ

/- An operation that no run holds is passed on. -/
theorem handOver
    (hSound : e.Sound)
    (now : Instant)
    {id : String}
    (hNobody : ∀ n p, e.run? n = some ⟨n, id, p⟩ →
      p.holds = false) :
    (e.handOver now id).Sound := by
  unfold BatchEngine.handOver
  cases hOperation : e.operations.get? id with
  | none => exact hSound
  | some t =>
      have hHere := hSound.sound id t hOperation
      cases hWaiting : t.waiting with
      | nil =>
          simp only [hWaiting]
          refine hSound.replace id ?_ ?_ ?_ ?_
          · intro j hj
            simp [get?_update, hj]
          · intro n j p _
            rw [run?_update]
          · intro n p _
            simp [get?_update, hOperation]
          · intro t' ht'
            simp only [get?_update, hOperation, if_true,
              Option.map_some, Option.some.injEq] at ht'
            subst ht'
            refine ⟨hHere.named, hHere.orderly, ?_, ?_,
              hHere.lined, fun _ => hWaiting⟩
            · intro n
              rw [run?_update]
              exact hHere.queued n
            · intro n p hRun hHolds
              rw [run?_update] at hRun
              rw [hNobody n p hRun] at hHolds
              cases hHolds
      | cons next rest =>
          simp only [hWaiting]
          have hLine := hWaiting ▸ hHere.lined
          rcases List.nodup_cons.1 hLine with ⟨hLeft, hRest⟩
          have hNext : e.run? next =
              some ⟨next, id, .queued⟩ := by
            refine (hHere.queued next).1 ?_
            rw [hWaiting]
            exact List.mem_cons_self
          have hKnown : (e.update id fun t =>
              { t with waiting := rest }).operations.get? id =
                some { t with waiting := rest } := by
            simp [get?_update, hOperation]
          refine hSound.replace id ?_ ?_ ?_ ?_
          · intro j hj
            simp [get?_acquire, get?_update, hj]
          · intro n j p hj
            rw [run?_acquire hKnown, run?_update]
            by_cases hn : n = next
            · subst hn
              simp [hNext, hj.symm]
            · simp [hn]
          · intro n p _
            simp [get?_acquire, hKnown]
          · intro t' ht'
            simp only [get?_acquire, hKnown, if_true,
              Option.map_some, Option.some.injEq] at ht'
            subst ht'
            refine TrackedOperation.Sound.acquired
              (t := { t with waiting := rest }) now
              hHere.named hHere.orderly ?_ hLeft
              (fun m p _ hRun => hNobody m p hRun) hRest
              ?_ ?_
            · intro m hm
              rw [← hHere.queued m, hWaiting]
              simp [hm]
            · rw [run?_acquire hKnown, run?_update]
              simp [hNext]
            · intro m hm
              rw [run?_acquire hKnown, run?_update]
              simp [hm]

end Sound

end BatchEngine

end DeviceHub
