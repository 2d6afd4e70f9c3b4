import DeviceHub.Batch.Engine
import DeviceHub.Proofs.Batch.Operation
import DeviceHub.Proofs.Dict

/-
  What shows of a change of the batch engine.

  An engine is looked at through the operation that it keeps
  under an id, and the run that it has under a ticket.  A
  change shows at one id or one ticket, and nowhere else.

  Main statements:
    * `BatchEngine.get?_update`
    * `BatchEngine.run?_setPhase`
    * `BatchEngine.run?_forget`
    * `BatchEngine.get?_acquire`
    * `BatchEngine.run?_acquire`
-/

namespace DeviceHub

namespace BatchEngine

/- A run is found under its own ticket. -/
theorem ticket_of_run?
    {e : BatchEngine}
    {n : Nat}
    {r : BatchRun}
    (hRun : e.run? n = some r) :
    r.ticket = n := by
  simpa using List.find?_some hRun

@[simp] theorem run?_update
    (e : BatchEngine)
    (id : String)
    (f : TrackedOperation → TrackedOperation)
    (n : Nat) :
    (e.update id f).run? n = e.run? n := by
  unfold update
  split <;> rfl

/- An update shows at its operation only. -/
theorem get?_update
    (e : BatchEngine)
    (id j : String)
    (f : TrackedOperation → TrackedOperation) :
    (e.update id f).operations.get? j =
      if j = id then (e.operations.get? j).map f
      else e.operations.get? j := by
  unfold update
  cases h : e.operations.get? id with
  | none =>
      by_cases hj : j = id
      · subst hj
        simp [h]
      · simp [hj]
  | some t =>
      by_cases hj : j = id
      · subst hj
        simp [h]
      · simp [Dict.get?_insert, hj]

@[simp] theorem throttle_update
    (e : BatchEngine)
    (id : String)
    (f : TrackedOperation → TrackedOperation) :
    (e.update id f).throttle = e.throttle := by
  unfold update
  split <;> rfl

@[simp] theorem throttle_acquire
    (e : BatchEngine)
    (now : Instant)
    (n : Nat)
    (id : String) :
    (e.acquire now n id).throttle = e.throttle := by
  unfold acquire
  split
  · rfl
  · exact throttle_update _ _ _

@[simp] theorem throttle_handOver
    (e : BatchEngine)
    (now : Instant)
    (id : String) :
    (e.handOver now id).throttle = e.throttle := by
  unfold handOver
  split
  · rfl
  · split
    · exact throttle_update _ _ _
    · simp

@[simp] theorem operations_setPhase
    (e : BatchEngine)
    (n : Nat)
    (p : RunPhase) :
    (e.setPhase n p).operations = e.operations := rfl

/- A change of phase shows at its run only. -/
theorem run?_setPhase
    (e : BatchEngine)
    (n m : Nat)
    (p : RunPhase) :
    (e.setPhase n p).run? m =
      if m = n then
        (e.run? m).map fun r => { r with phase := p }
      else e.run? m := by
  let f : BatchRun → BatchRun := fun r =>
    if r.ticket = n then { r with phase := p } else r
  have hTicket : ∀ r, (f r).ticket = r.ticket := by
    intro r
    simp only [f]
    split <;> rfl
  have hFind : (e.setPhase n p).run? m =
      (e.run? m).map f := by
    simp only [run?, setPhase, List.find?_map]
    congr 2
    funext r
    simp [f, hTicket]
  rw [hFind]
  cases h : e.run? m with
  | none => simp
  | some r =>
      simp [f, ticket_of_run? h]
      by_cases hm : m = n <;> simp [hm]

/- A run that goes to the phase it is in stays as it is. -/
theorem run?_setPhase_self
    {e : BatchEngine}
    {n : Nat}
    {id : String}
    {p : RunPhase}
    (hRun : e.run? n = some ⟨n, id, p⟩)
    (m : Nat) :
    (e.setPhase n p).run? m = e.run? m := by
  rw [run?_setPhase]
  by_cases hm : m = n
  · subst hm
    simp [hRun]
  · simp [hm]

/- A change of phase to no rest puts no run to rest. -/
theorem resting_of_setPhase
    {e : BatchEngine}
    {n m : Nat}
    {j : String}
    {q : RunPhase}
    {x : BatchElement}
    {left : List BatchElement}
    (hRests : (e.setPhase n q).run? m =
      some ⟨m, j, .resting x left⟩)
    (hPhase : q ≠ .resting x left) :
    e.run? m = some ⟨m, j, .resting x left⟩ := by
  rw [run?_setPhase] at hRests
  split at hRests
  · cases hRun : e.run? m with
    | none => simp [hRun] at hRests
    | some r =>
        simp only [hRun, Option.map_some,
          Option.some.injEq, BatchRun.mk.injEq] at hRests
        exact absurd hRests.2.2 hPhase
  · exact hRests

@[simp] theorem operations_forget
    (e : BatchEngine)
    (n : Nat) :
    (e.forget n).operations = e.operations := rfl

/- A forgotten run is not found, and no other is missed. -/
theorem run?_forget
    (e : BatchEngine)
    (n m : Nat) :
    (e.forget n).run? m =
      if m = n then none else e.run? m := by
  simp only [run?, forget, List.find?_filter]
  by_cases hm : m = n
  · subst hm
    simp
  · have hSame : ∀ r : BatchRun,
        (!decide (r.ticket = n) && decide (r.ticket = m)) =
          decide (r.ticket = m) := by
      intro r
      by_cases hr : r.ticket = m
      · simp [hr, hm]
      · simp [hr]
    simp [hSame, hm]

@[simp] theorem operations_enroll
    (e : BatchEngine)
    (n : Nat)
    (id : String) :
    (e.enroll n id).operations = e.operations := rfl

/- A new run is found under its ticket if that was free. -/
theorem run?_enroll
    {e : BatchEngine}
    {n : Nat}
    (hFree : e.run? n = none)
    (id : String)
    (m : Nat) :
    (e.enroll n id).run? m =
      if m = n then some ⟨n, id, .queued⟩ else e.run? m := by
  simp only [run?, enroll, List.find?_append]
  by_cases hm : m = n
  · subst hm
    rw [show e.runs.find? (·.ticket = m) = none from hFree]
    simp
  · have hNe : ¬ n = m := fun h => hm h.symm
    simp [hm, hNe]

/- Getting hold of an operation shows there only. -/
theorem get?_acquire
    (e : BatchEngine)
    (now : Instant)
    (n : Nat)
    (id j : String) :
    (e.acquire now n id).operations.get? j =
      if j = id then
        (e.operations.get? j).map fun t =>
          { t with
            operation := t.operation.markStarted now
            holder := some n }
      else e.operations.get? j := by
  unfold acquire
  cases h : e.operations.get? id with
  | none =>
      by_cases hj : j = id
      · subst hj
        simp [h]
      · simp [hj]
  | some t =>
      rw [operations_setPhase, get?_update]
      by_cases hj : j = id
      · subst hj
        simp [h]
      · simp [hj]

/- The run that gets hold goes to its first element. -/
theorem run?_acquire
    {e : BatchEngine}
    {id : String}
    {t : TrackedOperation}
    (hOperation : e.operations.get? id = some t)
    (now : Instant)
    (n m : Nat) :
    (e.acquire now n id).run? m =
      if m = n then
        (e.run? m).map fun r =>
          { r with phase := .gate t.operation.remaining true }
      else e.run? m := by
  simp [acquire, hOperation, run?_setPhase]

/- Getting hold makes no run and ends none. -/
theorem run?_acquire_eq_none
    (e : BatchEngine)
    (now : Instant)
    (n m : Nat)
    (id : String) :
    (e.acquire now n id).run? m = none ↔
      e.run? m = none := by
  unfold acquire
  cases e.operations.get? id with
  | none => rfl
  | some t =>
      simp only [run?_setPhase, run?_update]
      split <;> simp

end BatchEngine

end DeviceHub
