import DeviceHub.Batch.Operation
import DeviceHub.Proofs.Except

/-
  Operations in good order, and the changes that keep them
  so.

  The elements of such an operation stand at the places that
  they name.  Those that have been processed come first, and
  the others are as they were made.  Processing goes on at
  the first of these, so the order is kept.

  Key definitions include:
    * `BatchOperation.Orderly`

  Main statements:
    * `BatchOperation.Orderly.ofRequest`
    * `BatchOperation.Orderly.markStarted`
    * `BatchOperation.Orderly.markEnded`
    * `BatchOperation.Orderly.settle`
-/

------------------------------------------------------------
-- Device Ids
------------------------------------------------------------

namespace DeviceHub

namespace BatchTargets

/- Ids taken once are new each, and none was seen before. -/
theorem distinct_spec
    (seen ids : List String) :
    (distinct seen ids).Nodup ∧
      ∀ id ∈ distinct seen ids, id ∉ seen := by
  induction ids generalizing seen with
  | nil => simp [distinct]
  | cons id rest ih =>
      rw [distinct]
      split
      · exact ih seen
      · rename_i hNew
        rcases ih (id :: seen) with ⟨hNodup, hUnseen⟩
        have hHead : id ∉ distinct (id :: seen) rest :=
          fun hMem => hUnseen id hMem List.mem_cons_self
        refine ⟨List.nodup_cons.2 ⟨hHead, hNodup⟩, ?_⟩
        intro other hOther hSeen
        rcases List.mem_cons.1 hOther with hEq | hOther
        · subst hEq
          exact hNew (List.contains_iff_mem.2 hSeen)
        · exact hUnseen other hOther
            (List.mem_cons_of_mem _ hSeen)

/- They are the first ones of their kind, in order. -/
theorem distinct_eq_eraseDups
    (seen ids : List String) :
    distinct seen ids =
      (ids.filter (!seen.contains ·)).eraseDups := by
  induction ids generalizing seen with
  | nil => simp [distinct]
  | cons id rest ih =>
      rw [distinct]
      by_cases hSeen : seen.contains id = true
      · simp only [hSeen, if_true, List.filter_cons,
          Bool.not_true, Bool.false_eq_true, if_false]
        exact ih seen
      · simp only [hSeen, Bool.false_eq_true, if_false,
          List.filter_cons, Bool.not_false, if_true,
          List.eraseDups_cons, ih, List.filter_filter]
        congr 3
        funext other
        by_cases hSame : other = id
        · simp [hSame]
        · simp [hSame]

/- The ids of the devices of a request differ. -/
theorem nodup_of_resolveWith
    {answer : BatchCriteria → DeviceSearch →
      Except StoreError (List Device)}
    {t : BatchTargets}
    {ids : List String}
    (hIds : t.resolveWith answer = .ok ids) :
    ids.Nodup := by
  cases t with
  | devices given =>
      cases hIds
      exact (distinct_spec _ _).1
  | criteria c =>
      simp only [resolveWith] at hIds
      rcases bind_eq_ok_iff.1 hIds with ⟨search, -, hRest⟩
      rcases bind_eq_ok_iff.1 hRest with ⟨found, -, hFound⟩
      cases hFound
      exact (distinct_spec _ _).1

end BatchTargets

end DeviceHub

------------------------------------------------------------
-- Elements
------------------------------------------------------------

namespace DeviceHub

namespace BatchElement

@[simp] theorem isProcessed_new
    (index : Nat)
    (hardwareId : String) :
    (new index hardwareId).isProcessed = false := rfl

variable (x : BatchElement)
variable (now : Instant)
variable (result : Except String (Dict String))

@[simp] theorem index_settle :
    (x.settle now result).index = x.index := by
  cases result <;> rfl

@[simp] theorem hardwareId_settle :
    (x.settle now result).hardwareId = x.hardwareId := by
  cases result <;> rfl

@[simp] theorem isProcessed_settle :
    (x.settle now result).isProcessed = true := by
  cases result <;> rfl

end BatchElement

end DeviceHub

------------------------------------------------------------
-- Good Order
------------------------------------------------------------

namespace DeviceHub

namespace BatchOperation

/-
  An operation in good order.  Its elements are those done
  and those remaining; the latter are as they were made.
-/
structure Orderly
    (o : BatchOperation) : Prop where
  indexed : ∀ (i : Nat) (x : BatchElement),
    o.elements[i]? = some x → x.index = i
  distinct : (o.elements.map (·.hardwareId)).Nodup
  split : ∃ done, o.elements = done ++ o.remaining ∧
    ∀ x ∈ done, x.isProcessed = true
  fresh : ∀ x ∈ o.remaining,
    x = .new x.index x.hardwareId
  begun : ∀ x ∈ o.elements, x.isProcessed = true →
    o.processingStartedDate.isSome = true
  ended : o.processingEndedDate.isSome = true →
    o.processingStartedDate.isSome = true ∧
      o.isFinished = true

/- What remains has not been processed. -/
theorem isProcessed_of_mem_remaining
    {o : BatchOperation}
    {x : BatchElement}
    (hMem : x ∈ o.remaining) :
    x.isProcessed = false := by
  simpa [remaining] using (List.mem_filter.1 hMem).2

/- An operation is finished once nothing remains. -/
theorem isFinished_iff_remaining
    (o : BatchOperation) :
    o.isFinished = true ↔ o.remaining = [] := by
  simp [isFinished, remaining, List.filter_eq_nil_iff]

@[simp] theorem remaining_markStarted
    (o : BatchOperation)
    (now : Instant) :
    (o.markStarted now).remaining = o.remaining := rfl

@[simp] theorem isSome_started_markStarted
    (o : BatchOperation)
    (now : Instant) :
    (o.markStarted now).processingStartedDate.isSome =
      true := by
  cases h : o.processingStartedDate <;>
    simp [markStarted, h]

/- The beginning is noted the first time only. -/
theorem markStarted_eq_self
    {o : BatchOperation}
    (now : Instant)
    (hStarted : o.processingStartedDate.isSome = true) :
    o.markStarted now = o := by
  rcases Option.isSome_iff_exists.1 hStarted with ⟨date, hDate⟩
  cases o
  simp_all [markStarted]

@[simp] theorem elements_markEnded
    (o : BatchOperation)
    (now : Instant) :
    (o.markEnded now).elements = o.elements := by
  unfold markEnded
  split <;> rfl

@[simp] theorem id_markEnded
    (o : BatchOperation)
    (now : Instant) :
    (o.markEnded now).id = o.id := by
  unfold markEnded
  split <;> rfl

@[simp] theorem started_markEnded
    (o : BatchOperation)
    (now : Instant) :
    (o.markEnded now).processingStartedDate =
      o.processingStartedDate := by
  unfold markEnded
  split <;> rfl

@[simp] theorem remaining_markEnded
    (o : BatchOperation)
    (now : Instant) :
    (o.markEnded now).remaining = o.remaining := by
  simp [remaining]

@[simp] theorem isFinished_markEnded
    (o : BatchOperation)
    (now : Instant) :
    (o.markEnded now).isFinished = o.isFinished := by
  simp [isFinished]

/- Writing a result back changes one place only. -/
theorem getElem?_settle_of_ne
    (o : BatchOperation)
    {i j : Nat}
    (hNe : i ≠ j)
    (now : Instant)
    (result : Except String (Dict String)) :
    (o.settle i now result).elements[j]? =
      o.elements[j]? := by
  simp [settle, hNe]

/- The elements of a new operation are new themselves. -/
theorem eq_new_of_mem_ofRequest
    {r : BatchRequest}
    {id : String}
    {hardwareIds : List String}
    {now : Instant}
    {x : BatchElement}
    (hMem : x ∈ (ofRequest r id hardwareIds now).elements) :
    x = .new x.index x.hardwareId := by
  rcases List.mem_mapIdx.1 hMem with ⟨i, hi, rfl⟩
  rfl

/- All elements of a new operation remain. -/
theorem remaining_ofRequest
    (r : BatchRequest)
    (id : String)
    (hardwareIds : List String)
    (now : Instant) :
    (ofRequest r id hardwareIds now).remaining =
      (ofRequest r id hardwareIds now).elements := by
  refine List.filter_eq_self.2 ?_
  intro x hx
  rw [eq_new_of_mem_ofRequest hx]
  rfl

/- A new operation is on the given devices, in order. -/
@[simp] theorem hardwareIds_ofRequest
    (r : BatchRequest)
    (id : String)
    (hardwareIds : List String)
    (now : Instant) :
    (ofRequest r id hardwareIds now).elements.map
        (·.hardwareId) =
      hardwareIds := by
  refine List.ext_getElem? ?_
  intro i
  cases h : hardwareIds[i]? <;>
    simp [ofRequest, BatchElement.new, h]

namespace Orderly

/- A new operation is in good order. -/
theorem ofRequest
    (r : BatchRequest)
    (id : String)
    {hardwareIds : List String}
    (now : Instant)
    (hNodup : hardwareIds.Nodup) :
    (ofRequest r id hardwareIds now).Orderly := by
  let o := BatchOperation.ofRequest r id hardwareIds now
  have hNew : ∀ x ∈ o.elements,
      x = .new x.index x.hardwareId :=
    fun _ hx => eq_new_of_mem_ofRequest hx
  have hUnprocessed : ∀ x ∈ o.elements,
      x.isProcessed = false := by
    intro x hx
    rw [hNew x hx]
    rfl
  have hRemaining : o.remaining = o.elements :=
    remaining_ofRequest r id hardwareIds now
  have hIds : o.elements.map (·.hardwareId) = hardwareIds :=
    hardwareIds_ofRequest r id hardwareIds now
  refine ⟨?_, ?_, ⟨[], ?_, ?_⟩, ?_, ?_, ?_⟩
  · intro i x hx
    have hMade : ∃ h, hardwareIds[i]? = some h ∧
        BatchElement.new i h = x := by
      simpa [BatchOperation.ofRequest] using hx
    rcases hMade with ⟨h, -, rfl⟩
    rfl
  · change (o.elements.map (·.hardwareId)).Nodup
    rw [hIds]
    exact hNodup
  · exact hRemaining.symm
  · intro x hx
    cases hx
  · exact hRemaining ▸ hNew
  · intro x hx hProcessed
    simp [hUnprocessed x hx] at hProcessed
  · intro hEnded
    cases hEnded

variable {o : BatchOperation}

/- Noting the beginning keeps the order. -/
theorem markStarted
    (hOrderly : o.Orderly)
    (now : Instant) :
    (o.markStarted now).Orderly where
  indexed := hOrderly.indexed
  distinct := hOrderly.distinct
  split := hOrderly.split
  fresh := hOrderly.fresh
  begun := fun _ _ _ => isSome_started_markStarted o now
  ended := fun hEnded =>
    ⟨isSome_started_markStarted o now,
      (hOrderly.ended hEnded).2⟩

/- After the end is noted, it shows if all is done. -/
theorem isSome_ended_markEnded
    (hOrderly : o.Orderly)
    (now : Instant) :
    (o.markEnded now).processingEndedDate.isSome =
      o.isFinished := by
  unfold BatchOperation.markEnded
  split
  · rename_i hFinished
    cases h : o.processingEndedDate <;> simp [hFinished]
  · rename_i hUnfinished
    cases h : o.processingEndedDate with
    | none => simpa using hUnfinished
    | some date =>
        exact absurd (hOrderly.ended (by simp [h])).2
          hUnfinished

/- Noting the end keeps the order. -/
theorem markEnded
    (hOrderly : o.Orderly)
    (now : Instant)
    (hStarted : o.processingStartedDate.isSome = true) :
    (o.markEnded now).Orderly where
  indexed := by simpa using hOrderly.indexed
  distinct := by simpa using hOrderly.distinct
  split := by simpa using hOrderly.split
  fresh := by simpa using hOrderly.fresh
  begun := by simpa using hOrderly.begun
  ended := by
    rw [hOrderly.isSome_ended_markEnded now]
    intro hFinished
    simp [hStarted, hFinished]

/-
  The element that comes next stands between those done and
  those left, at the place that it names.
-/
theorem elements_eq
    (hOrderly : o.Orderly)
    {x : BatchElement}
    {left : List BatchElement}
    (hRemaining : o.remaining = x :: left) :
    ∃ done, o.elements = done ++ x :: left ∧
      x.index = done.length ∧
      ∀ y ∈ done, y.isProcessed = true := by
  rcases hOrderly.split with ⟨done, hElements, hDone⟩
  rw [hRemaining] at hElements
  refine ⟨done, hElements, ?_, hDone⟩
  refine hOrderly.indexed _ x ?_
  simp [hElements]

/- Every element is at the place that it names. -/
theorem getElem?_of_mem
    (hOrderly : o.Orderly)
    {x : BatchElement}
    (hMem : x ∈ o.elements) :
    o.elements[x.index]? = some x := by
  rcases List.mem_iff_getElem?.1 hMem with ⟨i, hi⟩
  rw [hOrderly.indexed i x hi]
  exact hi

/- The element that comes next is at its place. -/
theorem getElem?_index
    (hOrderly : o.Orderly)
    {x : BatchElement}
    {left : List BatchElement}
    (hRemaining : o.remaining = x :: left) :
    o.elements[x.index]? = some x := by
  rcases hOrderly.elements_eq hRemaining with
    ⟨done, hElements, hIndex, -⟩
  simp [hElements, hIndex]

/- The result of the next element is written in its place. -/
theorem elements_settle
    (hOrderly : o.Orderly)
    {x : BatchElement}
    {left : List BatchElement}
    (hRemaining : o.remaining = x :: left)
    (now : Instant)
    (result : Except String (Dict String)) :
    ∃ done, o.elements = done ++ x :: left ∧
      (o.settle x.index now result).elements =
        done ++ x.settle now result :: left ∧
      ∀ y ∈ done, y.isProcessed = true := by
  rcases hOrderly.elements_eq hRemaining with
    ⟨done, hElements, hIndex, hDone⟩
  refine ⟨done, hElements, ?_, hDone⟩
  simp [BatchOperation.settle, hElements, hIndex,
    List.modify_eq_take_cons_drop]

/- Then the next element remains no longer. -/
theorem remaining_settle
    (hOrderly : o.Orderly)
    {x : BatchElement}
    {left : List BatchElement}
    (hRemaining : o.remaining = x :: left)
    (now : Instant)
    (result : Except String (Dict String)) :
    (o.settle x.index now result).remaining = left := by
  rcases hOrderly.elements_settle hRemaining now result with
    ⟨done, -, hElements, hDone⟩
  have hSkip : done.filter (!·.isProcessed) = [] := by
    refine List.filter_eq_nil_iff.2 ?_
    intro y hy
    simp [hDone y hy]
  have hLeft : left.filter (!·.isProcessed) = left := by
    refine List.filter_eq_self.2 ?_
    intro y hy
    have hMem : y ∈ o.remaining := by
      rw [hRemaining]
      exact List.mem_cons_of_mem _ hy
    simp [isProcessed_of_mem_remaining hMem]
  simp [remaining, hElements, hSkip, hLeft]

/- Settling the next element keeps the order. -/
theorem settle
    (hOrderly : o.Orderly)
    {x : BatchElement}
    {left : List BatchElement}
    (hRemaining : o.remaining = x :: left)
    (hStarted : o.processingStartedDate.isSome = true)
    (now : Instant)
    (result : Except String (Dict String)) :
    (o.settle x.index now result).Orderly := by
  rcases hOrderly.elements_settle hRemaining now result with
    ⟨done, hBefore, hAfter, hDone⟩
  have hLeft :=
    hOrderly.remaining_settle hRemaining now result
  refine ⟨?_, ?_, ⟨done ++ [x.settle now result], ?_, ?_⟩,
    ?_, ?_, ?_⟩
  · intro i y hy
    have hSame : ∃ z, o.elements[i]? = some z ∧
        z.index = y.index := by
      simp only [BatchOperation.settle,
        List.getElem?_modify] at hy
      cases hz : o.elements[i]? with
      | none => simp [hz] at hy
      | some z =>
          refine ⟨z, rfl, ?_⟩
          rw [hz] at hy
          split at hy <;> cases hy <;> simp
    rcases hSame with ⟨z, hz, hIndex⟩
    exact hIndex ▸ hOrderly.indexed i z hz
  · have hIds := hOrderly.distinct
    rw [hBefore] at hIds
    rw [hAfter]
    simpa using hIds
  · simp [hAfter, hLeft]
  · intro y hy
    rcases List.mem_append.1 hy with hy | hy
    · exact hDone y hy
    · cases List.mem_singleton.1 hy
      simp
  · intro y hy
    rw [hLeft] at hy
    refine hOrderly.fresh y ?_
    rw [hRemaining]
    exact List.mem_cons_of_mem _ hy
  · exact fun _ _ _ => hStarted
  · intro hEnded
    have hFinished := (hOrderly.ended hEnded).2
    rw [isFinished_iff_remaining, hRemaining] at hFinished
    cases hFinished

/- What remains is in the order of the places. -/
theorem pairwise_remaining
    (hOrderly : o.Orderly) :
    o.remaining.Pairwise (·.index < ·.index) := by
  refine List.Pairwise.filter _ ?_
  refine List.pairwise_iff_getElem.2 ?_
  intro i j hi hj hLess
  rw [hOrderly.indexed i _ (List.getElem?_eq_getElem hi),
    hOrderly.indexed j _ (List.getElem?_eq_getElem hj)]
  exact hLess

end Orderly

end BatchOperation

end DeviceHub
