import DeviceHub.Hub.Assembly
import DeviceHub.Proofs.Batch.Session
import DeviceHub.Proofs.Hub.CommandRun

/-
  The call that asks for a command batch, and its answer.

  At a hub where nothing else goes on, the call keeps its
  stage from round to round: the run is on its way, or it is
  blocked at a full channel, or it has been answered.  Once
  rests are over, one round is enough to end it.

  Key definitions include:
    * `CommandBatch.begun`
    * `CommandBatch.CarriedOut`

  Main statements:
    * `CommandBatch.Stage.advance`
    * `CommandBatch.Done.carriedOut`
    * `CommandBatch.process_carries_out`
-/

------------------------------------------------------------
-- Rounds
------------------------------------------------------------

namespace DeviceHub

namespace CommandBatch

variable {b : CommandBatch}
variable {name : String}
variable {ticket : Nat}
variable {h : Hub}

/- The stages of the call are those of a run on its own. -/
theorem Stage.lone
    (hReady : b.Ready)
    (hStage : b.Stage name ticket h) :
    Hub.LoneStage name ticket b.operation.id b.Underway
      (b.Ended name ticket) h := by
  cases hStage with
  | going hCourse hIdle =>
      exact .going (hCourse.lone hReady) hIdle
        hCourse.underway
  | ended hEnded => exact .ended hEnded

theorem stage_of_lone
    (hStage : Hub.LoneStage name ticket b.operation.id
      b.Underway (b.Ended name ticket) h) :
    b.Stage name ticket h := by
  cases hStage with
  | going hRun hIdle hUnderway =>
      rcases hUnderway.course hRun with ⟨past, hCourse⟩
      exact .going hCourse hIdle
  | ended hEnded => exact .ended hEnded

/- The call keeps its stage while the hub goes on. -/
theorem Stage.advance
    (hReady : b.Ready)
    (hStage : b.Stage name ticket h)
    (rested : Bool) :
    b.Stage name ticket (h.advance rested) ∧
      (rested = true →
        b.Ended name ticket (h.advance rested)) := by
  have hAdvanced := (conduct hReady name ticket).advance
    (hStage.lone hReady) rested
  exact ⟨stage_of_lone hAdvanced.1, hAdvanced.2⟩

------------------------------------------------------------
-- Beginning and Answering
------------------------------------------------------------

/- The hub once the call has come and its run begun. -/
def begun
    (b : CommandBatch)
    (name : String) : Hub :=
  b.world.runBegun name b.operation.id

/- The run begins with all that remains ahead of it. -/
theorem course_begun
    (hReady : b.Ready)
    (hSound : b.world.engine.Sound)
    (hIdle : b.world.Idle)
    (hKept : b.world.engine.get? b.operation.id =
      some b.operation)
    (name : String) :
    b.Course name b.world.nextTicket (b.begun name) []
      b.operation.remaining
      (.gate b.operation.remaining true) := by
  rcases Hub.loneRun_runBegun hReady.started hSound hIdle
      hKept name with
    ⟨hRun, hBegun⟩
  exact ⟨(Sent.refl hReady.world).congr rfl rfl rfl, rfl,
    hRun.sound, hRun.run, rfl, rfl,
    ⟨_, hBegun, .markStarted b b.world.now⟩, rfl⟩

/- The call begins like any other at an idle hub. -/
theorem begin_eq
    (hReady : b.Ready)
    (hIdle : b.world.Idle)
    (hKept : b.world.engine.get? b.operation.id =
      some b.operation)
    (name : String) :
    b.world.begin name (.process b.operation.id) =
      ((b.begun name).advance false).reply name :=
  Hub.begin_process hReady.started hIdle hKept name

/- A call that has ended is blocked or gives its answer. -/
theorem Ended.collect?
    (hEnded : b.Ended name ticket h) :
    (h.collect? name = none ∧
      ∃ current : Shipment × Dict String,
        h.calls = [⟨some name, ticket,
          .processing (some current)⟩] ∧
        h.Blocked current.1) ∨
    ∃ o h', h.collect? name = some (.batch (.ok o), h') ∧
      h'.calls = [] ∧ b.Done h' o := by
  cases hEnded with
  | @blocked current hCalls hBlocked =>
      refine .inl ⟨?_, current, hCalls, hBlocked⟩
      simp [Hub.collect?, hCalls]
  | @answered o hCalls hDone =>
      refine .inr ⟨o, { h with calls := [] }, ?_, rfl,
        hDone.sent.congr rfl rfl rfl, hDone.kept,
        hDone.worked⟩
      simp [Hub.collect?, hCalls]

/- A call that is not blocked is answered at last. -/
theorem Stage.reply
    (hReady : b.Ready)
    (hStage : b.Stage name ticket h) :
    (∃ o h', h.reply name = (some (.batch (.ok o)), h') ∧
      b.Done h' o) ∨
    ∃ h', ∃ current : Shipment × Dict String,
      h.reply name = (none, h') ∧
      h'.calls = [⟨some name, ticket,
        .processing (some current)⟩] ∧
      h'.Blocked current.1 := by
  rcases (conduct hReady name ticket).reply
      (hStage.lone hReady) with
    ⟨h', hEnded, hReply⟩
  rcases hEnded.collect? with
    ⟨hCollect, current, hCalls, hBlocked⟩ |
      ⟨o, h'', hCollect, -, hDone⟩
  · rw [hCollect] at hReply
    exact .inr ⟨h', current, hReply, hCalls, hBlocked⟩
  · rw [hCollect] at hReply
    exact .inl ⟨o, h'', hReply, hDone⟩

------------------------------------------------------------
-- What Has Been Carried Out
------------------------------------------------------------

/-
  A command batch that has been carried out, with the
  operation that was answered.

  Whether an element succeeds is decided in the world as it
  was.  Every channel has got its messages for the elements
  that succeeded, in order, and nothing else; every device
  in use has one new event for its element.
-/
structure CarriedOut
    (b : CommandBatch)
    (o : BatchOperation)
    (h : Hub) : Prop where
  kept : h.engine.get? b.operation.id = some o
  alike : h.Alike b.world
  processed : ∀ (i : Nat) (x : BatchElement),
    b.operation.elements[i]? = some x →
    x.isProcessed = true →
    o.elements[i]? = some x
  settled : ∀ (i : Nat) (x : BatchElement),
    b.operation.elements[i]? = some x →
    x.isProcessed = false →
    ∃ y, o.elements[i]? = some y ∧ b.Outcome x y ∧
      (y.status = .succeeded ↔
        (b.place? x).isSome = true) ∧
      (y.status = .failed ↔ b.place? x = none)
  queues : ∀ (place : Nat) (d : Destination),
    b.world.equipment.destinations[place]? = some d →
    ∃ d' sent,
      h.equipment.destinations[place]? = some d' ∧
      d'.transport.queue = d.transport.queue ++ sent ∧
      sent.map Except.ok =
        (b.operation.remaining.filter
          (b.place? · = some place)).map (b.message d)
  recorded : ∀ x ∈ b.operation.remaining,
    h.equipment.backend.store.eventsOf x.hardwareId =
      b.world.equipment.backend.store.eventsOf
        x.hardwareId ++ (b.record? x).toList
  untouched : ∀ id,
    (∀ x ∈ b.operation.remaining, x.hardwareId ≠ id) →
    h.equipment.backend.store.eventsOf id =
      b.world.equipment.backend.store.eventsOf id

/- A remaining element is the only one of its device. -/
theorem filter_hardwareId
    (hOrderly : b.operation.Orderly)
    {x : BatchElement}
    (hMem : x ∈ b.operation.remaining) :
    b.operation.remaining.filter
      (·.hardwareId = x.hardwareId) = [x] := by
  have hDistinct :
      (b.operation.remaining.map (·.hardwareId)).Nodup :=
    hOrderly.distinct.sublist
      (List.filter_sublist.map _)
  rcases List.append_of_mem hMem with ⟨past, left, hSplit⟩
  rw [hSplit, List.map_append, List.map_cons,
    List.nodup_append, List.nodup_cons] at hDistinct
  rcases hDistinct with ⟨-, ⟨hLater, -⟩, hEarlier⟩
  have hPast : past.filter
      (·.hardwareId = x.hardwareId) = [] := by
    refine List.filter_eq_nil_iff.2 ?_
    intro y hy
    have hNe := hEarlier y.hardwareId
      (List.mem_map_of_mem hy) x.hardwareId
      List.mem_cons_self
    simp [hNe]
  have hLeft : left.filter
      (·.hardwareId = x.hardwareId) = [] := by
    refine List.filter_eq_nil_iff.2 ?_
    intro y hy
    have hNe : y.hardwareId ≠ x.hardwareId := by
      intro hSame
      exact hLater (hSame ▸ List.mem_map_of_mem hy)
    simp [hNe]
  rw [hSplit, List.filter_append, List.filter_cons, hPast,
    hLeft]
  simp

/- A batch with nothing left to do has been carried out. -/
theorem Done.carriedOut
    (hReady : b.Ready)
    {o : BatchOperation}
    (hDone : b.Done h o) :
    b.CarriedOut o h where
  kept := hDone.kept
  alike := hDone.sent.alike
  processed := by
    intro i x hAt hProcessed
    refine hDone.worked.kept i x hAt ?_
    intro hMem
    have hNot :=
      BatchOperation.isProcessed_of_mem_remaining hMem
    rw [hProcessed] at hNot
    cases hNot
  settled := by
    intro i x hAt hUnprocessed
    have hMem : x ∈ b.operation.remaining := by
      refine List.mem_filter.2
        ⟨List.mem_of_getElem? hAt, ?_⟩
      simp [hUnprocessed]
    rcases hDone.worked.done x hMem with ⟨y, hy, hOutcome⟩
    rw [hReady.orderly.indexed i x hAt] at hy
    exact ⟨y, hy, hOutcome, hOutcome.succeeded_iff,
      hOutcome.failed_iff⟩
  queues := hDone.sent.queues
  recorded := by
    intro x hMem
    rw [hDone.sent.events,
      filter_hardwareId hReady.orderly hMem]
    simp
  untouched := by
    intro id hNone
    have hNil : b.operation.remaining.filter
        (·.hardwareId = id) = [] := by
      refine List.filter_eq_nil_iff.2 ?_
      intro x hMem
      simp [hNone x hMem]
    rw [hDone.sent.events, hNil]
    simp

/-
  A call that processes a command batch at an idle hub is
  answered, with the batch carried out, or its delivery of
  some element waits at a full channel.
-/
theorem process_carries_out
    {κ : Type}
    {s : BatchSession κ}
    (hReach : s.Reachable)
    (b : CommandBatch)
    (hEngine : b.world.engine = s.engine)
    (hKept : b.world.engine.get? b.operation.id =
      some b.operation)
    (hAction : b.operation.action =
      .invokeCommand b.token b.values)
    (hStarted : b.world.status .batch = .started)
    (hVia : b.world.via = none)
    (hIdle : b.world.Idle)
    (hWorld : b.world.Ready)
    (name : String) :
    (∃ o h, b.world.begin name (.process b.operation.id) =
        (some (.batch (.ok o)), h) ∧ b.CarriedOut o h) ∨
    ∃ h, ∃ current : Shipment × Dict String,
      b.world.begin name (.process b.operation.id) =
        (none, h) ∧
      h.calls = [⟨some name, b.world.nextTicket,
        .processing (some current)⟩] ∧
      h.Blocked current.1 := by
  have hSound : b.world.engine.Sound := by
    rw [hEngine]
    exact hReach.sound.engine
  have hReady : b.Ready := by
    refine ⟨hWorld, ?_, hAction, hVia, hStarted⟩
    rw [hEngine] at hKept
    exact (hReach.sound.orderly hKept).2
  have hCourse :=
    course_begun hReady hSound hIdle hKept name
  have hStage : b.Stage name b.world.nextTicket
      (b.begun name) := by
    refine .going hCourse ?_
    intro x rest hEq
    cases hEq
  have hBegun := hStage.advance hReady false
  rw [begin_eq hReady hIdle hKept name]
  rcases hBegun.1.reply hReady with
    ⟨o, h, hReply, hDone⟩ | hBlocked
  · exact .inl ⟨o, h, hReply, hDone.carriedOut hReady⟩
  · exact .inr hBlocked

------------------------------------------------------------
-- A Hub
------------------------------------------------------------

/- A store with one device in use and one command. -/
def rebootStore : DeviceStore :=
  ((DeviceStore.empty.addDevice (.new "a" "pump" default)
    ).addAssignment (.new "t" "a")).addCommand
      (.new "reboot" "Reboot")

/- A hub with that store and one channel. -/
def rebootAssembly : Assembly :=
  { name := "plant"
    wings := ⟨true, false⟩
    backend := .of rebootStore default toString
    destinations := [.new "main" .json none (.channel 4)]
    router := ⟨.ofList [("main", 0)], .empty, none⟩ }

/- An engine with a request to reboot two devices. -/
def rebootSession : BatchSession Unit :=
  ((BatchSession.rebootSession 0).run
    [.resolve 0 (.ok []) default]).2

/- The hub after its start, with that engine. -/
def rebootHub : Hub :=
  { ((rebootAssembly.hub.control .supervisor .start).map
      (·.2)).getD rebootAssembly.hub with
    engine := rebootSession.engine }

/- The commands for both devices, of which one is known. -/
def rebootBatch : CommandBatch :=
  ⟨rebootHub, BatchSession.rebootOperation, "reboot",
    .empty⟩

/- The known device gets its command, and the other fails. -/
theorem process_carries_out_reboot :
    rebootBatch.place? (.new 0 "a") = some 0 ∧
      rebootBatch.place? (.new 1 "b") = none ∧
      ∃ o h, rebootHub.begin "run" (.process "r") =
          (some (.batch (.ok o)), h) ∧
        rebootBatch.CarriedOut o h := by
  refine ⟨rfl, rfl, ?_⟩
  have hIdle : rebootHub.Idle := by
    refine ⟨rfl, rfl, ?_⟩
    intro id t hOperation
    have hOperations : rebootHub.engine.operations =
        Dict.empty.insert "r"
          ⟨BatchSession.rebootOperation, none, []⟩ := rfl
    rw [hOperations, Dict.get?_insert] at hOperation
    split at hOperation
    · cases hOperation
      rfl
    · cases hOperation
  have hDestination : ∀ d ∈ rebootHub.equipment.destinations,
      d = .new "main" .json none (.channel 4) := by
    intro d hMem
    exact List.mem_singleton.1 hMem
  have hReady : rebootHub.Ready := by
    refine ⟨rfl, rfl, ?_, ?_⟩
    · intro d hMem
      rw [hDestination d hMem]
      exact ⟨4, true, rfl⟩
    · intro d hMem
      rw [hDestination d hMem]
      rfl
  have hReach : rebootSession.Reachable :=
    (BatchSession.reachable_rebootSession 0).run _
  rcases process_carries_out hReach rebootBatch rfl rfl rfl
    rfl rfl hIdle hReady "run" with
      hAnswered | ⟨h, current, hBegin, -⟩
  · exact hAnswered
  · -- The channel has room, so the call is answered.
    have hSome : (rebootHub.begin "run" (.process "r")
        ).1.isSome = true := rfl
    have hNone : (rebootHub.begin "run" (.process "r")
        ).1 = none := congrArg Prod.fst hBegin
    rw [hNone] at hSome
    cases hSome

end CommandBatch

end DeviceHub
