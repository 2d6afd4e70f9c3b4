import DeviceHub.Proofs.Batch.Operation
import DeviceHub.Proofs.Hub.Elements

/-
  What a batch of commands is to do, told from the world as
  it was when its processing began.

  A message carries the id of the event that recorded its
  command, and ids are given out one after the other.  So
  the record of an element depends on the elements before
  it, by the number of their records alone.

  Key definitions include:
    * `CommandBatch`
    * `CommandBatch.place?`
    * `CommandBatch.record?`
    * `CommandBatch.message`
    * `CommandBatch.Outcome`
    * `CommandBatch.Sent`
    * `CommandBatch.Worked`

  Main statements:
    * `CommandBatch.Sent.acted`
    * `CommandBatch.Worked.settle`
-/

namespace DeviceHub

------------------------------------------------------------
-- What Is to Be Done
------------------------------------------------------------

/-
  A command for the devices that remain in an operation, and
  the hub as it was when the processing began.
-/
structure CommandBatch where
  world : Hub
  operation : BatchOperation
  token : String
  values : Dict String

namespace CommandBatch

variable (b : CommandBatch)

/- Whether the device of an element is in use. -/
def inUse
    (x : BatchElement) : Bool :=
  (b.world.equipment.backend.assigned? x.hardwareId).isSome

/- The place that the command for an element gets to. -/
def place?
    (x : BatchElement) : Option Nat :=
  b.world.commandPlace? b.token b.values x.hardwareId

/- How many commands are recorded before an element's. -/
def recordedBefore
    (x : BatchElement) : Nat :=
  b.operation.remaining.countP fun y =>
    y.index < x.index && b.inUse y

/- The id of the event that records an element's command. -/
def recordId
    (x : BatchElement) : String :=
  let storage := b.world.equipment.backend
  storage.eventId (storage.created + b.recordedBefore x + 1)

/- The event that records an element's command. -/
def record?
    (x : BatchElement) : Option StoredEvent :=
  (b.world.equipment.backend.assigned? x.hardwareId).map
    fun d => DeviceStore.stored d (b.recordId x) b.world.now
      x.hardwareId
      (b.operation.invocationEvent x.hardwareId b.token
        b.values)

/- The message that an element's command is sent as. -/
def message
    (d : Destination)
    (x : BatchElement) : Except CommandError Outbound :=
  d.prepare b.world.equipment.backend x.hardwareId
    (b.operation.invocation (b.recordId x) b.token b.values)

/-
  What becomes of an element: it succeeds if its command gets
  to a place, and fails if not.
-/
structure Outcome
    (x y : BatchElement) : Prop where
  succeeds : ∀ place, b.place? x = some place →
    y = x.succeed b.world.now
      (.ofList [("invocationEventId", b.recordId x)])
  fails : b.place? x = none →
    ∃ e, y = x.fail b.world.now e

/- An element succeeds only if its command gets somewhere. -/
theorem Outcome.succeeded_iff
    {x y : BatchElement}
    (hOutcome : b.Outcome x y) :
    y.status = .succeeded ↔ (b.place? x).isSome = true := by
  cases hPlace : b.place? x with
  | none =>
      rcases hOutcome.fails hPlace with ⟨e, rfl⟩
      simp [BatchElement.fail]
  | some place =>
      rw [hOutcome.succeeds place hPlace]
      simp [BatchElement.succeed]

/- It fails in all other cases. -/
theorem Outcome.failed_iff
    {x y : BatchElement}
    (hOutcome : b.Outcome x y) :
    y.status = .failed ↔ b.place? x = none := by
  cases hPlace : b.place? x with
  | none =>
      rcases hOutcome.fails hPlace with ⟨e, rfl⟩
      simp [BatchElement.fail]
  | some place =>
      rw [hOutcome.succeeds place hPlace]
      simp [BatchElement.succeed]

variable {b}

------------------------------------------------------------
-- Elements in Order
------------------------------------------------------------

/- Records are counted over the elements that came before. -/
theorem recordedBefore_eq
    (hOrderly : b.operation.Orderly)
    {past left : List BatchElement}
    {x : BatchElement}
    (hRemaining : b.operation.remaining = past ++ x :: left) :
    b.recordedBefore x = past.countP b.inUse := by
  have hOrder := hOrderly.pairwise_remaining
  rw [hRemaining, List.pairwise_append,
    List.pairwise_cons] at hOrder
  rcases hOrder with ⟨-, ⟨hLater, -⟩, hEarlier⟩
  have hPast : past.countP (fun y =>
      y.index < x.index && b.inUse y) =
        past.countP b.inUse := by
    refine List.countP_congr ?_
    intro y hy
    have hBefore := hEarlier y hy x List.mem_cons_self
    simp [hBefore]
  have hLeft : left.countP (fun y =>
      y.index < x.index && b.inUse y) = 0 := by
    refine List.countP_eq_zero.2 ?_
    intro y hy
    have hAfter := hLater y hy
    have hNot : ¬ y.index < x.index := by omega
    simp [hNot]
  unfold recordedBefore
  rw [hRemaining, List.countP_append, List.countP_cons,
    hPast, hLeft]
  simp

/- An element has not come before itself. -/
theorem not_mem_past
    (hOrderly : b.operation.Orderly)
    {past left : List BatchElement}
    {x : BatchElement}
    (hRemaining : b.operation.remaining = past ++ x :: left) :
    x ∉ past := by
  have hOrder := hOrderly.pairwise_remaining
  rw [hRemaining, List.pairwise_append] at hOrder
  intro hMem
  have hBefore := hOrder.2.2 x hMem x List.mem_cons_self
  omega

/- A message that gets to a place can be prepared. -/
theorem exists_message
    (hFaults : b.world.equipment.backend.faults = [])
    {x : BatchElement}
    {place : Nat}
    (hPlace : b.place? x = some place)
    {d : Destination}
    (hAt : b.world.equipment.destinations[place]? = some d) :
    ∃ m, b.message d x = .ok m := by
  rcases (Hub.commandPlace?_eq_some_iff _ _ _ _ _).1 hPlace
    with ⟨device, assignment, command, id, d', hDevice,
      hToken, hAssignment, hCommand, hValues, -, hAt',
      hTopics, -⟩
  rw [hAt, Option.some.injEq] at hAt'
  subst hAt'
  exact (d.prepare_ok_iff hFaults x.hardwareId _).2
    ⟨device, assignment, command, hDevice, hToken,
      hAssignment, hCommand, hValues, hTopics⟩

------------------------------------------------------------
-- Records and Messages
------------------------------------------------------------

/-
  A hub in which the commands for some elements have been
  recorded and sent, and nothing else that matters has
  changed.
-/
structure Sent
    (b : CommandBatch)
    (h : Hub)
    (past : List BatchElement) : Prop where
  alike : h.Alike b.world
  ready : h.Ready
  created : h.equipment.backend.created =
    b.world.equipment.backend.created + past.countP b.inUse
  events : ∀ id,
    h.equipment.backend.store.eventsOf id =
      b.world.equipment.backend.store.eventsOf id ++
        (past.filter (·.hardwareId = id)).flatMap
          fun x => (b.record? x).toList
  queues : ∀ (place : Nat) (d : Destination),
    b.world.equipment.destinations[place]? = some d →
    ∃ d' sent,
      h.equipment.destinations[place]? = some d' ∧
      d'.transport.queue = d.transport.queue ++ sent ∧
      sent.map Except.ok =
        (past.filter (b.place? · = some place)).map
          (b.message d)

/- Nothing has been sent in the beginning. -/
theorem Sent.refl
    (hReady : b.world.Ready) :
    b.Sent b.world [] := by
  refine ⟨.refl _, hReady, rfl, by simp, ?_⟩
  intro place d hAt
  exact ⟨d, [], hAt, by simp, rfl⟩

/- What has been sent shows in forest and equipment. -/
theorem Sent.congr
    {h h' : Hub}
    {past : List BatchElement}
    (hSent : b.Sent h past)
    (hForest : h'.forest = h.forest)
    (hEquipment : h'.equipment = h.equipment)
    (hVia : h'.via = h.via) :
    b.Sent h' past := by
  have hAlike : h'.Alike h := by
    refine ⟨hForest, hVia, ?_, ?_, ?_, ?_, ?_, ?_, ?_, ?_,
      ?_⟩ <;> simp only [Hub.now, hEquipment]
  refine ⟨hAlike.trans hSent.alike,
    hSent.ready.of_alike hAlike ?_, ?_, ?_, ?_⟩
  · rw [hEquipment]
    exact hSent.ready.waiting
  · rw [hEquipment]
    exact hSent.created
  · rw [hEquipment]
    exact hSent.events
  · rw [hEquipment]
    exact hSent.queues

/- The next id to be given out is the next element's. -/
theorem Sent.recordId_eq
    {h : Hub}
    {past left : List BatchElement}
    {x : BatchElement}
    (hSent : b.Sent h past)
    (hOrderly : b.operation.Orderly)
    (hRemaining : b.operation.remaining = past ++ x :: left) :
    h.equipment.backend.eventId
        (h.equipment.backend.created + 1) =
      b.recordId x := by
  rw [hSent.alike.ids, hSent.created,
    ← recordedBefore_eq hOrderly hRemaining]
  rfl

/-
  A command that goes to a place is put at the end of the
  queue there, and all other queues stay as they are.
-/
theorem Sent.queue_acted
    {h h' : Hub}
    {past left : List BatchElement}
    {x : BatchElement}
    {result : Except String (Dict String)}
    (hSent : b.Sent h past)
    (hFaults : b.world.equipment.backend.faults = [])
    (hOrderly : b.operation.Orderly)
    (hRemaining : b.operation.remaining = past ++ x :: left)
    (hActed : h.Acted h' b.operation b.token b.values
      x.hardwareId result)
    {place : Nat}
    {d : Destination}
    (hAt : b.world.equipment.destinations[place]? = some d) :
    ∃ d' sent,
      h'.equipment.destinations[place]? = some d' ∧
      d'.transport.queue = d.transport.queue ++ sent ∧
      sent.map Except.ok =
        ((past ++ [x]).filter (b.place? · = some place)).map
          (b.message d) := by
  have hPlace : h.commandPlace? b.token b.values
      x.hardwareId = b.place? x :=
    hSent.alike.commandPlace?_eq b.token b.values x.hardwareId
  rcases hSent.queues place d hAt with
    ⟨d', sent, hAt', hQueue, hMessages⟩
  rcases hActed.queues place d' hAt' with
    ⟨d'', hAt'', hQueue'⟩
  rw [hPlace, hSent.recordId_eq hOrderly hRemaining,
    hSent.alike.prepare_at hAt hAt'] at hQueue'
  by_cases hHere : b.place? x = some place
  · rcases exists_message hFaults hHere hAt with
      ⟨m, hMessage⟩
    refine ⟨d'', sent ++ [m], hAt'', ?_, ?_⟩
    · rw [hQueue', hQueue, if_pos hHere, List.append_assoc]
      change _ ++ (_ ++ (b.message d x).toOption.toList) = _
      rw [hMessage]
      rfl
    · rw [List.map_append, hMessages, List.filter_append,
        List.map_append]
      simp [hHere, hMessage]
  · refine ⟨d'', sent, hAt'', ?_, ?_⟩
    · rw [hQueue', hQueue, if_neg hHere, List.append_nil]
    · rw [hMessages, List.filter_append]
      simp [hHere]

/-
  The command for the next element is recorded and sent as
  it would have been in the world at the beginning.
-/
theorem Sent.acted
    {h h' : Hub}
    {past left : List BatchElement}
    {x : BatchElement}
    {result : Except String (Dict String)}
    (hSent : b.Sent h past)
    (hFaults : b.world.equipment.backend.faults = [])
    (hOrderly : b.operation.Orderly)
    (hRemaining : b.operation.remaining = past ++ x :: left)
    (hActed : h.Acted h' b.operation b.token b.values
      x.hardwareId result) :
    b.Sent h' (past ++ [x]) ∧
      (∀ place, b.place? x = some place →
        result = .ok
          (.ofList [("invocationEventId", b.recordId x)])) ∧
      (b.place? x = none → ∃ e, result = .error e) := by
  have hAlike := hSent.alike
  have hId := hSent.recordId_eq hOrderly hRemaining
  have hUse : h.equipment.backend.assigned? x.hardwareId =
      b.world.equipment.backend.assigned? x.hardwareId :=
    hAlike.assigned?_eq x.hardwareId
  have hPlace : h.commandPlace? b.token b.values
      x.hardwareId = b.place? x :=
    hAlike.commandPlace?_eq b.token b.values x.hardwareId
  refine ⟨⟨hActed.alike.trans hAlike, hActed.ready, ?_, ?_,
    ?_⟩, ?_, ?_⟩
  · rw [hActed.created, hSent.created, hUse,
      List.countP_append, List.countP_singleton,
      Nat.add_assoc]
    by_cases hHere : b.inUse x = true
    · rw [if_pos hHere]
      exact congrArg _ (congrArg _ (if_pos hHere))
    · rw [if_neg hHere]
      exact congrArg _ (congrArg _ (if_neg hHere))
  · intro id
    have hNew : ((h.equipment.backend.assigned?
        x.hardwareId).map fun d =>
          DeviceStore.stored d
            (h.equipment.backend.eventId
              (h.equipment.backend.created + 1))
            h.now x.hardwareId
            (b.operation.invocationEvent x.hardwareId
              b.token b.values)) = b.record? x := by
      rw [hUse, hId, hAlike.clock]
      rfl
    rw [hActed.events, hSent.events, hNew,
      List.filter_append, List.flatMap_append,
      List.append_assoc]
    congr 2
    by_cases hSame : x.hardwareId = id
    · simp [hSame]
    · simp [hSame, Ne.symm hSame]
  · intro place d hAt
    exact hSent.queue_acted hFaults hOrderly hRemaining
      hActed hAt
  · intro place hHere
    rw [hActed.succeeded place (hPlace.trans hHere), hId]
  · intro hNowhere
    exact hActed.failed (hPlace.trans hNowhere)

------------------------------------------------------------
-- Elements Worked On
------------------------------------------------------------

/-
  The operation after some of its elements have been worked
  on: these have their outcomes, and the others stay.
-/
structure Worked
    (b : CommandBatch)
    (o : BatchOperation)
    (past : List BatchElement) : Prop where
  id : o.id = b.operation.id
  action : o.action = b.operation.action
  length : o.elements.length = b.operation.elements.length
  done : ∀ x ∈ past, ∃ y,
    o.elements[x.index]? = some y ∧ b.Outcome x y
  kept : ∀ (i : Nat) (x : BatchElement),
    b.operation.elements[i]? = some x → x ∉ past →
    o.elements[i]? = some x

/- In the beginning no element has been worked on. -/
theorem Worked.markStarted
    (b : CommandBatch)
    (now : Instant) :
    b.Worked (b.operation.markStarted now) [] where
  id := rfl
  action := rfl
  length := rfl
  done := fun _ hMem => absurd hMem List.not_mem_nil
  kept := fun _ _ hAt _ => hAt

/- Noting the end changes no element. -/
theorem Worked.markEnded
    {o : BatchOperation}
    {past : List BatchElement}
    (hWorked : b.Worked o past)
    (now : Instant) :
    b.Worked (o.markEnded now) past where
  id := by simpa using hWorked.id
  action := by
    rw [← hWorked.action]
    unfold BatchOperation.markEnded
    split <;> rfl
  length := by simpa using hWorked.length
  done := by simpa using hWorked.done
  kept := by simpa using hWorked.kept

/- The result of the next element is written in its place. -/
theorem Worked.settle
    {o : BatchOperation}
    {past left : List BatchElement}
    {x : BatchElement}
    {result : Except String (Dict String)}
    (hWorked : b.Worked o past)
    (hOrderly : b.operation.Orderly)
    (hRemaining : b.operation.remaining = past ++ x :: left)
    (hSucceeds : ∀ place, b.place? x = some place →
      result = .ok
        (.ofList [("invocationEventId", b.recordId x)]))
    (hFails : b.place? x = none → ∃ e, result = .error e) :
    b.Worked (o.settle x.index b.world.now result)
      (past ++ [x]) := by
  have hNew := not_mem_past hOrderly hRemaining
  have hMember : ∀ y ∈ past ++ [x],
      b.operation.elements[y.index]? = some y := by
    intro y hy
    have hMem : y ∈ b.operation.remaining := by
      rw [hRemaining, List.append_cons]
      exact List.mem_append_left _ hy
    exact hOrderly.getElem?_of_mem
      (List.mem_filter.1 hMem).1
  have hOther : ∀ (i : Nat) (y : BatchElement),
      b.operation.elements[i]? = some y → y ≠ x →
      (o.settle x.index b.world.now result).elements[i]? =
        o.elements[i]? := by
    intro i y hi hNe
    refine o.getElem?_settle_of_ne ?_ _ _
    intro hEq
    have hx := hMember x (by simp)
    rw [hEq, hi, Option.some.injEq] at hx
    exact hNe hx
  refine ⟨hWorked.id, hWorked.action, ?_, ?_, ?_⟩
  · simpa [BatchOperation.settle] using hWorked.length
  · intro y hy
    by_cases hSame : y = x
    · subst hSame
      have hKept := hWorked.kept _ _ (hMember y hy) hNew
      refine ⟨y.settle b.world.now result, ?_, ?_, ?_⟩
      · simp [BatchOperation.settle, hKept]
      · intro place hPlace
        rw [hSucceeds place hPlace]
        rfl
      · intro hPlace
        rcases hFails hPlace with ⟨e, rfl⟩
        exact ⟨e, rfl⟩
    · have hPast : y ∈ past := by
        rcases List.mem_append.1 hy with hy | hy
        · exact hy
        · exact absurd (List.mem_singleton.1 hy) hSame
      rcases hWorked.done y hPast with ⟨z, hz, hOutcome⟩
      refine ⟨z, ?_, hOutcome⟩
      rw [hOther _ y (hMember y hy) hSame]
      exact hz
  · intro i y hi hNot
    have hSame : y ≠ x := by
      intro hEq
      exact hNot (by simp [hEq])
    rw [hOther i y hi hSame]
    refine hWorked.kept i y hi ?_
    intro hPast
    exact hNot (List.mem_append_left _ hPast)

end CommandBatch

end DeviceHub
