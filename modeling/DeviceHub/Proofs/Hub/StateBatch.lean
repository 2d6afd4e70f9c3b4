import DeviceHub.Hub.Assembly
import DeviceHub.Proofs.Batch.Session
import DeviceHub.Proofs.Hub.LoneRun
import DeviceHub.Proofs.Inbound.Routing

/-
  A batch that changes states does what routing its events
  one after the other does.

  Both keep the event of every known device before they look
  for the state to change, so that they leave the same behind
  when there is none.

  Key definitions include:
    * `Pipeline.routeEach`
    * `BatchOperation.stateEvent`
    * `BatchElement.Reports`
    * `StateBatch`
    * `StateBatch.Progress`

  Main statements:
    * `Pipeline.routeEach_spec`
    * `Pipeline.routeEach_sameBut`
    * `BatchOperation.act_stateEvent`
    * `StateBatch.conduct`
    * `StateBatch.agrees_with_routing`
-/

------------------------------------------------------------
-- One Event After the Other
------------------------------------------------------------

namespace DeviceHub

namespace Pipeline

/- Route events one after the other. -/
def routeEach
    (b : Backend) :
    List DecodedEvent →
      List (Except StoreError Unit) × Backend
  | [] => ([], b)
  | e :: rest =>
      let (result, b) := route b e
      let (results, b) := routeEach b rest
      (result :: results, b)

theorem routeEach_cons
    (b : Backend)
    (e : DecodedEvent)
    (rest : List DecodedEvent) :
    routeEach b (e :: rest) =
      ((route b e).1 :: (routeEach (route b e).2 rest).1,
        (routeEach (route b e).2 rest).2) := rfl

/- The last event is routed over what the others leave. -/
theorem routeEach_append
    (b : Backend)
    (events : List DecodedEvent)
    (e : DecodedEvent) :
    (routeEach b (events ++ [e])).2 =
      (route (routeEach b events).2 e).2 := by
  induction events generalizing b with
  | nil => rfl
  | cons first rest ih => exact ih (route b first).2

/-
  Each event fails or not as it would at the beginning, and
  the storage records all.
-/
theorem routeEach_spec
    {b : Backend}
    (hFaults : b.faults = [])
    (events : List DecodedEvent) :
    (routeEach b events).1 = events.map b.store.verdict ∧
      b.store.Records (events.map fun e => ⟨b.now, e⟩)
        (routeEach b events).2.store ∧
      (routeEach b events).2.now = b.now ∧
      (routeEach b events).2.faults = [] := by
  induction events generalizing b with
  | nil => exact ⟨rfl, .nil _, rfl, hFaults⟩
  | cons e rest ih =>
      have hRoute := routeOf_route hFaults e
      have hTook := hRoute.took
      have hAlike : rest.map (route b e).2.store.verdict =
          rest.map b.store.verdict :=
        List.map_congr_left fun e' _ =>
          hTook.alike.verdict_eq e'
      rcases ih (hTook.faults.trans hFaults) with
        ⟨hResults, hRecords, hNow, hFaults'⟩
      rw [hTook.now] at hNow hRecords
      rw [hAlike] at hResults
      rw [routeEach_cons]
      refine ⟨?_, hRoute.records.append hRecords, hNow,
        hFaults'⟩
      rw [hResults, hRoute.result_eq, List.map_cons]

/- Clocks and ids are all that tells two storages apart. -/
theorem routeEach_sameBut
    {b b' : Backend}
    (hFaults : b.faults = [])
    (hFaults' : b'.faults = [])
    (hStore : b'.store = b.store)
    (events : List DecodedEvent) :
    DeviceStore.SameBut [(b.now, b'.now)] b.store
      (routeEach b events).2.store
      (routeEach b' events).2.store := by
  rcases routeEach_spec hFaults events with ⟨-, hRecords, -⟩
  rcases routeEach_spec hFaults' events with ⟨-, hRecords', -⟩
  rw [hStore] at hRecords'
  refine hRecords.sameBut_of_same hRecords' ?_
  refine List.forall₂_map_left_iff.2
    (List.forall₂_map_right_iff.2 (List.forall₂_same.2 ?_))
  intro e _
  exact ⟨List.mem_singleton_self _, rfl⟩

end Pipeline

end DeviceHub

------------------------------------------------------------
-- One Element
------------------------------------------------------------

namespace DeviceHub

/- The event that is to change the state of a device's use. -/
def BatchOperation.stateEvent
    (kind : EventKind)
    (metadata : Dict String)
    (hardwareId : String) : DecodedEvent :=
  { hardwareId := hardwareId
    originator := none
    kind := kind
    eventDate := none
    metadata := metadata
    updateState := true }

/- An element tells what has come of an event. -/
structure BatchElement.Reports
    (x : BatchElement)
    (result : Except StoreError Unit) : Prop where
  succeeded : x.status = .succeeded ↔ result = .ok ()
  failed : ∀ err, result = .error err →
    x.status = .failed ∧ x.error = some err.message

namespace BatchOperation

variable {o : BatchOperation}
variable {kind : EventKind}
variable {metadata : Dict String}

/- The action on a device is to route its event. -/
theorem act_stateEvent
    (hAction : o.action = .updateState kind metadata)
    (b : Backend)
    (x : BatchElement)
    (now : Instant) :
    ∃ result,
      o.act b x.hardwareId =
          (.done result,
            (Pipeline.route b
              (stateEvent kind metadata x.hardwareId)).2) ∧
        (x.settle now result).Reports
          (Pipeline.route b
            (stateEvent kind metadata x.hardwareId)).1 := by
  have hSucceeds : ∀ values, (x.settle now (.ok values)
      ).Reports (.ok ()) := by
    intro values
    refine ⟨⟨fun _ => rfl, fun _ => rfl⟩, ?_⟩
    intro err hError
    cases hError
  have hFails : ∀ err : StoreError,
      (x.settle now (.error err.message)
        ).Reports (.error err) := by
    intro err
    refine ⟨⟨fun hStatus => ?_, fun hOk => ?_⟩, ?_⟩
    · cases hStatus
    · cases hOk
    · rintro _ ⟨⟩
      exact ⟨rfl, rfl⟩
  have hEvent : { DecodedEvent.new x.hardwareId kind with
      updateState := true
      metadata := metadata } =
        stateEvent kind metadata x.hardwareId := rfl
  have hId : (stateEvent kind metadata x.hardwareId
      ).hardwareId = x.hardwareId := rfl
  have hUpdates : (stateEvent kind metadata x.hardwareId
      ).updateState = true := rfl
  unfold act changeState Pipeline.route
  simp only [hAction, hEvent, hId, hUpdates, if_true]
  cases b.createEvent x.hardwareId
      (stateEvent kind metadata x.hardwareId) with
  | error err => exact ⟨_, rfl, hFails err⟩
  | ok created =>
      rcases created with ⟨stored, b'⟩
      dsimp only
      cases b'.updateState x.hardwareId stored with
      | error err => exact ⟨_, rfl, hFails err⟩
      | ok b'' => exact ⟨_, rfl, hSucceeds _⟩

end BatchOperation

end DeviceHub

------------------------------------------------------------
-- A Batch on the Way
------------------------------------------------------------

namespace DeviceHub

/-
  A change of states to be processed, and the hub as it is
  when the processing begins.
-/
structure StateBatch where
  world : Hub
  operation : BatchOperation
  kind : EventKind
  metadata : Dict String

namespace StateBatch

/- The event for an element. -/
def event
    (b : StateBatch)
    (x : BatchElement) : DecodedEvent :=
  BatchOperation.stateEvent b.kind b.metadata x.hardwareId

/- What comes of an element's event in the beginning. -/
def verdict
    (b : StateBatch)
    (x : BatchElement) : Except StoreError Unit :=
  b.world.equipment.backend.store.verdict (b.event x)

/- What has become of an element. -/
structure Outcome
    (b : StateBatch)
    (x y : BatchElement) : Prop where
  hardwareId : y.hardwareId = x.hardwareId
  reports : y.Reports (b.verdict x)

/- The storage after some elements. -/
def after
    (b : StateBatch)
    (past : List BatchElement) : Backend :=
  (Pipeline.routeEach b.world.equipment.backend
    (past.map b.event)).2

/-
  The hub with elements still ahead: the others have their
  outcomes, and their events have been routed.
-/
structure Progress
    (b : StateBatch)
    (h : Hub)
    (past left : List BatchElement)
    (o : BatchOperation)
    (done : List BatchElement) : Prop where
  elements : b.operation.elements = past ++ left
  kept : h.engine.get? b.operation.id = some o
  action : o.action = .updateState b.kind b.metadata
  standing : o.elements = done ++ left
  outcomes : List.Forall₂ b.Outcome past done
  backend : h.equipment.backend = b.after past

/- So many elements are ahead, however the others went. -/
def Underway
    (b : StateBatch)
    (h : Hub)
    (left : List BatchElement) : Prop :=
  ∃ past o done, b.Progress h past left o done

/- The call has been answered, and everything is done. -/
structure Answered
    (b : StateBatch)
    (name : String)
    (ticket : Nat)
    (o : BatchOperation)
    (h : Hub) : Prop where
  calls : h.calls =
    [⟨some name, ticket, .answered (.batch (.ok o))⟩]
  kept : h.engine.get? b.operation.id = some o
  outcomes : List.Forall₂ b.Outcome b.operation.elements
    o.elements
  backend : h.equipment.backend = b.after b.operation.elements

/- The call has been answered with some operation. -/
def Over
    (b : StateBatch)
    (name : String)
    (ticket : Nat)
    (h : Hub) : Prop :=
  ∃ o, b.Answered name ticket o h

variable {b : StateBatch}
variable {name : String}
variable {ticket : Nat}
variable {h : Hub}
variable {x : BatchElement}
variable {past left done : List BatchElement}
variable {o : BatchOperation}

/- Elements with outcomes are of the devices they were of. -/
theorem hardwareIds_of_outcomes
    {xs ys : List BatchElement}
    (hOutcomes : List.Forall₂ b.Outcome xs ys) :
    ys.map (·.hardwareId) = xs.map (·.hardwareId) := by
  induction hOutcomes with
  | nil => rfl
  | cons hFirst _ ih =>
      rw [List.map_cons, List.map_cons, hFirst.hardwareId, ih]

/- They tell what comes of the events. -/
theorem reports_of_outcomes
    {xs ys : List BatchElement}
    (hOutcomes : List.Forall₂ b.Outcome xs ys) :
    List.Forall₂ BatchElement.Reports ys
      (xs.map b.verdict) := by
  induction hOutcomes with
  | nil => exact .nil
  | cons hFirst _ ih => exact .cons hFirst.reports ih

/- A turn of the run leaves the work as it is. -/
theorem Progress.turn
    (hProgress : b.Progress h past left o done)
    (e : BatchEngine)
    (hSame : e.operations = h.engine.operations) :
    b.Progress { h with engine := e } past left o done where
  elements := hProgress.elements
  kept := by
    rw [← hProgress.kept]
    simp only [BatchEngine.get?, hSame]
  action := hProgress.action
  standing := hProgress.standing
  outcomes := hProgress.outcomes
  backend := hProgress.backend

/- The clock stands still while elements are worked on. -/
theorem now_after
    (hFaults : b.world.equipment.backend.faults = [])
    (past : List BatchElement) :
    (b.after past).now = b.world.now :=
  (Pipeline.routeEach_spec hFaults _).2.2.1

/- The event of an element fails as it would have at first. -/
theorem result_eq
    (hFaults : b.world.equipment.backend.faults = [])
    (past : List BatchElement)
    (x : BatchElement) :
    (Pipeline.route (b.after past) (b.event x)).1 =
      b.verdict x := by
  rcases Pipeline.routeEach_spec hFaults
      (past.map b.event) with
    ⟨-, hRecords, -, hFaults'⟩
  have hRoute := Pipeline.routeOf_route (b := b.after past)
    hFaults' (b.event x)
  rw [hRoute.result_eq]
  exact hRecords.alike.verdict_eq (b.event x)

/- An element gets its outcome, and its event is routed. -/
theorem Progress.act
    (hFaults : b.world.equipment.backend.faults = [])
    (hRun : h.LoneRun name ticket b.operation.id (x :: left)
      (.acting x left))
    (hProgress : b.Progress h past (x :: left) o done) :
    ∃ h', h.actOn ticket o x = (true, h') ∧
      h'.LoneRun name ticket b.operation.id left
        (.gate left false) ∧
      b.Underway h' left := by
  rcases hRun.exists_operation with
    ⟨o', hKept, -, hOrderly, hRemaining⟩
  cases hProgress.kept.symm.trans hKept
  have hNow : h.now = b.world.now := by
    rw [Hub.now, hProgress.backend, now_after hFaults]
  rcases BatchOperation.act_stateEvent hProgress.action
      (b.after past) x h.now with
    ⟨result, hAct, hReports⟩
  have hReports' : (x.settle h.now result).Reports
      (b.verdict x) := by
    rw [← result_eq hFaults past x]
    exact hReports
  have hNext : (Pipeline.route (b.after past)
      (b.event x)).2 = b.after (past ++ [x]) := by
    simp only [after, List.map_append, List.map_cons,
      List.map_nil]
    exact (Pipeline.routeEach_append _ _ _).symm
  have hNow' : (h.setBackend (b.after (past ++ [x]))).now =
      h.now :=
    (now_after hFaults _).trans hNow.symm
  have hActOn : h.actOn ticket o x =
      (true, (h.setBackend (b.after (past ++ [x]))
        ).settleElement ticket result) := by
    simp only [Hub.actOn, hProgress.backend, hAct]
    rw [← hNext]
    rfl
  rcases hOrderly.elements_settle hRemaining h.now result with
    ⟨done', hBefore, hAfter, -⟩
  have hDone : done' = done :=
    List.append_cancel_right
      (hBefore.symm.trans hProgress.standing)
  subst hDone
  have hEngine : (h.setBackend (b.after (past ++ [x]))
      ).engine = h.engine := rfl
  have hForest : (h.setBackend (b.after (past ++ [x]))
      ).forest = h.forest := rfl
  have hSettled :=
    hRun.get?_settleElement hEngine hKept result
  rw [hNow'] at hSettled
  have hGoesOn := hRun.settle hForest hEngine rfl result
  refine ⟨_, hActOn, hGoesOn, past ++ [x], _,
    done' ++ [x.settle h.now result], ?_, hSettled,
    hProgress.action, ?_, ?_, rfl⟩
  · rw [hProgress.elements, List.append_assoc,
      List.singleton_append]
  · rw [hAfter, List.append_assoc, List.singleton_append]
  · exact List.rel_append hProgress.outcomes
      (.cons ⟨by simp, hReports'⟩ .nil)

/- With no element left, the call is answered. -/
theorem Progress.finish
    {first : Bool}
    (hRun : h.LoneRun name ticket b.operation.id []
      (.gate [] first))
    (hProgress : b.Progress h past [] o done) :
    b.Over name ticket (h.finishRun ticket) := by
  rcases hRun.finish hProgress.kept with
    ⟨e, hFinish, hAnswer⟩
  have hPast := hProgress.elements
  have hDone := hProgress.standing
  rw [List.append_nil] at hPast hDone
  rw [hFinish]
  refine ⟨_, rfl, hAnswer, ?_, ?_⟩
  · rw [hPast, BatchOperation.elements_markEnded, hDone]
    exact hProgress.outcomes
  · rw [hPast]
    exact hProgress.backend

/- The work of a change of states, as a hub's run does it. -/
theorem conduct
    (hFaults : b.world.equipment.backend.faults = [])
    (name : String)
    (ticket : Nat) :
    Hub.Conduct name ticket b.operation.id b.Underway
      (b.Over name ticket) where
  turn := by
    rintro h left e ⟨past, o, done, hProgress⟩ hSame
    exact ⟨past, o, done, hProgress.turn e hSame⟩
  act := by
    rintro h x left o hRun ⟨past, o', done, hProgress⟩ hKept
    cases hKept.symm.trans hProgress.kept
    exact .inl (hProgress.act hFaults hRun)
  finish := by
    rintro h first hRun ⟨past, o, done, hProgress⟩
    exact hProgress.finish hRun
  calls := by
    rintro h ⟨o, hAnswered⟩
    exact ⟨_, hAnswered.calls, by simp⟩
  served := by
    rintro h ⟨o, hAnswered⟩
    refine Hub.serveAll_of_no_shipments ?_
    rw [hAnswered.calls]
    intro c hc
    cases List.mem_singleton.1 hc
    rfl

end StateBatch

end DeviceHub

------------------------------------------------------------
-- From the Request to the Answer
------------------------------------------------------------

namespace DeviceHub

/- A request for a list of devices is taken on at once. -/
theorem BatchEngine.submit_devices
    {e : BatchEngine}
    {r : BatchRequest}
    {ids : List String}
    (hTargets : r.targets = .devices ids)
    (hNew : e.get? (operationId r e.generatedId) = none)
    (b : Backend) :
    let o := BatchOperation.ofRequest r
      (operationId r e.generatedId)
      (BatchTargets.distinct [] (BatchTargets.cleaned ids))
      b.now
    e.submit b r = .ok (o, (e.insert o).countMade r) := by
  have hFree : e.checkFree (operationId r e.generatedId) =
      .ok () := by
    simp only [get?, Option.map_eq_none_iff] at hNew
    simp [checkFree, Dict.contains, hNew]
  simp [submit, hFree, hTargets, BatchTargets.resolve,
    BatchTargets.resolveWith, accept]

namespace Hub

/- The hub once an operation has been taken on. -/
def accepted
    (h : Hub)
    (r : BatchRequest)
    (o : BatchOperation) : Hub :=
  { h with
    engine := (h.engine.insert o).countMade r
    nextTicket := h.nextTicket + 1 }

variable {h : Hub}
variable {r : BatchRequest}
variable {o : BatchOperation}

/- A request that is taken on is answered at once. -/
theorem begin_submit
    (hIdle : h.Idle)
    (hSubmit : h.engine.submit h.equipment.backend r =
      .ok (o, (h.engine.insert o).countMade r))
    (name : String) :
    h.begin name (.submit r) =
      (some (.batch (.ok o)), h.accepted r o) := by
  refine begin_of_answered hIdle.calls ?_ hIdle.calls
  simp only [firstPhase, submit, hSubmit]
  rfl

theorem engine_accepted
    (h : Hub)
    (r : BatchRequest)
    (o : BatchOperation) :
    (h.accepted r o).engine.operations =
        h.engine.operations.insert o.id ⟨o, none, []⟩ ∧
      (h.accepted r o).engine.runs = h.engine.runs := by
  simp only [accepted, BatchEngine.countMade]
  split
  · exact ⟨rfl, rfl⟩
  · exact ⟨rfl, rfl⟩

/- Nothing goes on after that, either. -/
theorem Idle.accepted
    (hIdle : h.Idle)
    (r : BatchRequest)
    (o : BatchOperation) :
    (h.accepted r o).Idle := by
  rcases h.engine_accepted r o with ⟨hOperations, hRuns⟩
  refine ⟨hIdle.calls, hRuns.trans hIdle.runs, ?_⟩
  intro id t hKept
  rw [hOperations, Dict.get?_insert] at hKept
  split at hKept
  · cases hKept
    rfl
  · exact hIdle.free id t hKept

end Hub

namespace StateBatch

variable {b : StateBatch}

/- A run begins with no event routed. -/
theorem progress_begun
    (hAction : b.operation.action =
      .updateState b.kind b.metadata)
    {h : Hub}
    (hBackend : h.equipment.backend = b.world.equipment.backend)
    {now : Instant}
    (hKept : h.engine.get? b.operation.id =
      some (b.operation.markStarted now)) :
    b.Progress h [] b.operation.elements
      (b.operation.markStarted now) [] :=
  ⟨rfl, hKept, hAction, rfl, .nil, hBackend⟩

/-
  At an idle hub whose engine is started, a new change of
  states is carried out and answered.
-/
theorem process_eq
    (hStarted : b.world.status .batch = .started)
    (hSound : b.world.engine.Sound)
    (hIdle : b.world.Idle)
    (hFaults : b.world.equipment.backend.faults = [])
    (hKept : b.world.engine.get? b.operation.id =
      some b.operation)
    (hAction : b.operation.action =
      .updateState b.kind b.metadata)
    (hNew : b.operation.remaining = b.operation.elements)
    (name : String) :
    ∃ o h,
      b.world.begin name (.process b.operation.id) =
          (some (.batch (.ok o)), h) ∧
        h.engine.get? b.operation.id = some o ∧
        List.Forall₂ b.Outcome b.operation.elements
          o.elements ∧
        h.equipment.backend = b.after b.operation.elements := by
  rcases Hub.loneRun_runBegun hStarted hSound hIdle hKept
      name with
    ⟨hRun, hBegun⟩
  have hConduct := conduct hFaults name b.world.nextTicket
  have hUnderway : b.Underway
      (b.world.runBegun name b.operation.id)
      b.operation.remaining := by
    rw [hNew]
    exact ⟨_, _, _, progress_begun
      (h := b.world.runBegun name b.operation.id) hAction rfl
      hBegun⟩
  have hStage := (hConduct.advance (.going hRun
    (fun x rest hEq => by cases hEq) hUnderway) false).1
  rcases hConduct.reply hStage with
    ⟨h, ⟨o, hAnswered⟩, hReply⟩
  rw [Hub.collect?_of_answered hAnswered.calls] at hReply
  exact ⟨o, _,
    (Hub.begin_process hStarted hIdle hKept name).trans hReply,
    hAnswered.kept, hAnswered.outcomes, hAnswered.backend⟩

/-
  To submit a change of states for a list of devices and to
  have it processed does what routing one event for each of
  the devices does, and each element tells what has come of
  its event.
-/
theorem agrees_with_routing
    {κ : Type}
    {s : BatchSession κ}
    (hReach : s.Reachable)
    {h : Hub}
    (hEngine : h.engine = s.engine)
    (hStarted : h.status .batch = .started)
    (hIdle : h.Idle)
    (hFaults : h.equipment.backend.faults = [])
    {r : BatchRequest}
    {kind : EventKind}
    {metadata : Dict String}
    (hAction : r.action = .updateState kind metadata)
    {ids : List String}
    (hTargets : r.targets = .devices ids)
    (hNew : h.engine.get?
      (BatchEngine.operationId r h.engine.generatedId) = none)
    {b : Backend}
    (hStore : b.store = h.equipment.backend.store)
    (hFaults' : b.faults = [])
    (name name' : String) :
    let hardwareIds := ((ids.filter (!Text.isBlank ·)).map
      Text.trim).eraseDups
    let routed := Pipeline.routeEach b (hardwareIds.map
      (BatchOperation.stateEvent kind metadata))
    ∃ o h₁ o' h₂,
      h.begin name (.submit r) =
          (some (.batch (.ok o)), h₁) ∧
        h₁.begin name' (.process o.id) =
          (some (.batch (.ok o')), h₂) ∧
        h₂.engine.get? o.id = some o' ∧
        DeviceStore.SameBut [(b.now, h.now)] b.store
          routed.2.store h₂.equipment.backend.store ∧
        o'.elements.map (·.hardwareId) = hardwareIds ∧
        List.Forall₂ BatchElement.Reports o'.elements
          routed.1 := by
  intro hardwareIds routed
  have hIds : BatchTargets.distinct []
      (BatchTargets.cleaned ids) = hardwareIds := by
    rw [BatchTargets.distinct_eq_eraseDups]
    simp [hardwareIds, BatchTargets.cleaned]
  let o := BatchOperation.ofRequest r
    (BatchEngine.operationId r h.engine.generatedId)
    hardwareIds h.now
  have hSubmit : h.engine.submit h.equipment.backend r =
      .ok (o, (h.engine.insert o).countMade r) := by
    rw [BatchEngine.submit_devices hTargets hNew, hIds]
    rfl
  have hSound : (h.accepted r o).engine.Sound := by
    rcases h.engine_accepted r o with ⟨hOperations, hRuns⟩
    have hBefore : h.engine.Sound := by
      rw [hEngine]
      exact hReach.sound.engine
    have hFree : h.engine.operations.get? o.id = none := by
      simp only [BatchEngine.get?,
        Option.map_eq_none_iff] at hNew
      exact hNew
    refine (hBefore.insert hFree (.ofRequest r _ _ ?_)).congr
      hOperations ?_
    · rw [← hIds]
      exact (BatchTargets.distinct_spec _ _).1
    · intro n
      simp only [BatchEngine.run?, hRuns]
      rfl
  have hKept : (h.accepted r o).engine.get? o.id = some o := by
    rcases h.engine_accepted r o with ⟨hOperations, -⟩
    simp [BatchEngine.get?, hOperations]
  rcases process_eq
      (b := ⟨h.accepted r o, o, kind, metadata⟩) hStarted
      hSound (hIdle.accepted r o) hFaults hKept hAction
      (BatchOperation.remaining_ofRequest ..) name' with
    ⟨o', h₂, hProcess, hAnswered, hOutcomes, hBackend⟩
  have hElements : o.elements.map (·.hardwareId) =
      hardwareIds :=
    BatchOperation.hardwareIds_ofRequest ..
  have hEvents : o.elements.map (fun x =>
        BatchOperation.stateEvent kind metadata x.hardwareId) =
      hardwareIds.map
        (BatchOperation.stateEvent kind metadata) := by
    rw [← hElements, List.map_map]
    rfl
  refine ⟨o, _, o', h₂, Hub.begin_submit hIdle hSubmit name,
    hProcess, hAnswered, ?_, ?_, ?_⟩
  · have hAfter : h₂.equipment.backend =
        (Pipeline.routeEach h.equipment.backend
          (hardwareIds.map
            (BatchOperation.stateEvent kind metadata))).2 := by
      rw [hBackend, ← hEvents]
      rfl
    rw [hAfter]
    exact Pipeline.routeEach_sameBut hFaults' hFaults
      hStore.symm _
  · rw [← hElements]
    exact hardwareIds_of_outcomes hOutcomes
  · have hReports := reports_of_outcomes hOutcomes
    have hResults := (Pipeline.routeEach_spec hFaults'
      (hardwareIds.map
        (BatchOperation.stateEvent kind metadata))).1
    rw [hStore, ← hEvents, List.map_map] at hResults
    simp only [routed, ← hEvents]
    rw [hResults]
    exact hReports

/- A hub that knows one device and rests between elements. -/
def yardHub : Hub :=
  let a : Assembly :=
    { name := "yard"
      wings := ⟨true, false⟩
      backend := .of ((DeviceStore.empty.addDevice
        (.new "a" "truck" default)).addAssignment
          (.new "t" "a")) default toString
      throttle := 250 }
  ((a.hub.control .supervisor .start).map (·.2)).getD a.hub

/- Of two devices one is known, and the other fails. -/
theorem agrees_with_routing_yard :
    let r := BatchRequest.new
      (.updateState (.alert .warning "gate" "left open") .empty)
      (.devices [" a ", "b", "a", " "])
    yardHub.status .batch = .started ∧ yardHub.Idle ∧
      ∃ o h₁ o' h₂,
        yardHub.begin "new" (.submit r) =
            (some (.batch (.ok o)), h₁) ∧
          h₁.begin "run" (.process o.id) =
            (some (.batch (.ok o')), h₂) ∧
          o'.elements.map (·.hardwareId) = ["a", "b"] ∧
          List.Forall₂ BatchElement.Reports o'.elements
            [.ok (), .error (.unknownDevice "b")] := by
  intro r
  have hIdle : yardHub.Idle := by
    refine ⟨rfl, rfl, ?_⟩
    intro id t hOperation
    cases hOperation
  have hReach : (BatchSession.new 250
      BatchSession.plainComponent).Reachable :=
    ⟨250, _, [], rfl⟩
  rcases agrees_with_routing hReach
      (h := yardHub) (r := r) (b := yardHub.equipment.backend)
      rfl rfl hIdle rfl rfl rfl rfl rfl rfl "new" "run" with
    ⟨o, h₁, o', h₂, hSubmit, hProcess, -, -, hIds, hReports⟩
  exact ⟨rfl, hIdle, o, h₁, o', h₂, hSubmit, hProcess, hIds,
    hReports⟩

end StateBatch

end DeviceHub
