import DeviceHub.Inbound.Pipeline
import DeviceHub.Proofs.Store.Backend
import DeviceHub.Proofs.Store.Effects

/-
  Routing events, one after the other, over a storage
  without faults.

  Every event of a known device is kept, in order, whether
  or not the state of the device's use can be changed.  The
  failures list exactly the events of unknown devices and
  those whose change of state finds no assignment.

  Key definitions include:
    * `Backend.kept`
    * `Backend.Took`
    * `Pipeline.RouteOf`
    * `DeviceStore.Tally`
    * `DeviceStore.failures`
    * `Pipeline.Routing.more`

  Main statements:
    * `Pipeline.routeOf_route`
    * `Pipeline.RouteOf.took`
    * `Pipeline.RouteOf.records`
    * `DeviceStore.tally_failures`
    * `Pipeline.routeAll_eq`
-/

namespace DeviceHub

namespace Backend

variable {b b' b'' : Backend}

/-
  The form in which events are kept: those of known devices,
  in order, each under the next id.
-/
def kept
    (b : Backend)
    (events : List DecodedEvent) : List StoredEvent :=
  (events.filterMap fun e =>
    (b.store.devices.get? e.hardwareId).map fun d id =>
      DeviceStore.stored d id b.now e.hardwareId e).mapIdx
        fun i form => form (b.eventId (b.created + i + 1))

/- The storage has taken events, and has changed no more. -/
structure Took
    (b : Backend)
    (events : List DecodedEvent)
    (b' : Backend) : Prop where
  alike : b.store.Alike b'.store
  now : b'.now = b.now
  eventId : b'.eventId = b.eventId
  faults : b'.faults = b.faults
  created : b'.created = b.created + (b.kept events).length
  eventsOf : ∀ hardwareId,
    b'.store.eventsOf hardwareId =
      b.store.eventsOf hardwareId ++
        (b.kept events).filter (·.hardwareId = hardwareId)

theorem Took.nil
    (b : Backend) :
    b.Took [] b := by
  refine ⟨.refl _, rfl, rfl, rfl, rfl, ?_⟩
  intro hardwareId
  exact (List.append_nil _).symm

/- What is kept of the first event, then of the others. -/
theorem Took.kept_cons
    {e : DecodedEvent}
    (hTook : b.Took [e] b')
    (rest : List DecodedEvent) :
    b.kept (e :: rest) = b.kept [e] ++ b'.kept rest := by
  have hCreated := hTook.created
  unfold kept at hCreated ⊢
  rw [hTook.alike.devices, hTook.now, hTook.eventId]
  cases hDevice : b.store.devices.get? e.hardwareId with
  | none =>
      simp only [List.filterMap_cons, hDevice, Option.map_none,
        List.filterMap_nil, List.mapIdx_nil, List.length_nil,
        Nat.add_zero] at hCreated ⊢
      rw [hCreated, List.nil_append]
  | some d =>
      simp only [List.filterMap_cons, hDevice, Option.map_some,
        List.filterMap_nil, List.mapIdx_cons,
        List.mapIdx_nil, List.length_singleton] at hCreated ⊢
      rw [hCreated, List.singleton_append]
      congr 2
      funext i form
      congr 2
      omega

theorem Took.cons
    {e : DecodedEvent}
    {rest : List DecodedEvent}
    (hFirst : b.Took [e] b')
    (hRest : b'.Took rest b'') :
    b.Took (e :: rest) b'' := by
  have hKept := hFirst.kept_cons rest
  refine ⟨hFirst.alike.trans hRest.alike,
    hRest.now.trans hFirst.now,
    hRest.eventId.trans hFirst.eventId,
    hRest.faults.trans hFirst.faults, ?_, ?_⟩
  · rw [hRest.created, hFirst.created, hKept,
      List.length_append, Nat.add_assoc]
  · intro hardwareId
    rw [hRest.eventsOf, hFirst.eventsOf, hKept,
      List.filter_append, List.append_assoc]

/- An event of an unknown device leaves no trace. -/
theorem took_of_unknown
    {e : DecodedEvent}
    (hDevice : b.store.devices.get? e.hardwareId = none) :
    b.Took [e] b := by
  have hKept : b.kept [e] = [] := by
    simp [kept, hDevice]
  refine ⟨.refl _, rfl, rfl, rfl, ?_, ?_⟩
  · rw [hKept]
    rfl
  · intro hardwareId
    rw [hKept]
    exact (List.append_nil _).symm

/- An event of a known device is kept, whatever comes after. -/
theorem took_of_record
    {e : DecodedEvent}
    {d : Device}
    (hDevice : b.store.devices.get? e.hardwareId = some d)
    {store : DeviceStore}
    (hAlike :
      (b.record d e.hardwareId e).store.Alike store)
    (hEvents : store.events =
      (b.record d e.hardwareId e).store.events) :
    b.Took [e]
      { b.record d e.hardwareId e with store := store } := by
  have hKept : b.kept [e] =
      [DeviceStore.stored d (b.eventId (b.created + 1)) b.now
        e.hardwareId e] := by
    simp [kept, hDevice]
  refine ⟨?_, rfl, rfl, rfl, ?_, ?_⟩
  · have hRecord : b.store.Alike
        (b.record d e.hardwareId e).store :=
      ⟨rfl, rfl, rfl, fun _ => rfl⟩
    exact hRecord.trans hAlike
  · rw [hKept]
    rfl
  · intro hardwareId
    have hRecord := eventsOf_record (b := b) d e.hardwareId
      hardwareId e
    have hSame : store.eventsOf hardwareId =
        (b.record d e.hardwareId e).store.eventsOf
          hardwareId := by
      unfold DeviceStore.eventsOf
      rw [hEvents]
    rw [hKept]
    refine (hSame.trans hRecord).trans ?_
    by_cases hOwn : hardwareId = e.hardwareId
    · simp [hOwn, DeviceStore.stored]
    · simp [hOwn, Ne.symm hOwn, DeviceStore.stored]

/- The pipeline's own wish does not show in what is kept. -/
theorem Took.of_marked
    {p : Pipeline}
    {b b' : Backend}
    {events : List DecodedEvent}
    (hTook : b.Took (events.map p.marked) b') :
    b.Took events b' := by
  have hKept : b.kept (events.map p.marked) =
      b.kept events := by
    unfold kept
    rw [List.filterMap_map]
    rfl
  refine ⟨hTook.alike, hTook.now, hTook.eventId,
    hTook.faults, ?_, ?_⟩
  · rw [← hKept]
    exact hTook.created
  · rw [← hKept]
    exact hTook.eventsOf

end Backend

------------------------------------------------------------
-- One Event
------------------------------------------------------------

/- The storage after the state of a use has been changed. -/
def Backend.setUse
    (b : Backend)
    (a : DeviceAssignment)
    (token : String)
    (state : AssignmentState) : Backend :=
  { b with store := { b.store with
      assignments := b.store.assignments.insert token
        { a with state := state } } }

namespace Pipeline

variable {b : Backend}

/-
  The ways in which an event can go: it is refused, or it is
  kept; and then it changes the state of its device's use,
  unless it does not ask for that or there is no use.
-/
inductive RouteOf
    (b : Backend)
    (e : DecodedEvent) :
    Except StoreError Unit × Backend → Prop where
  | refused
      (hDevice : b.store.devices.get? e.hardwareId = none) :
      RouteOf b e (.error (.unknownDevice e.hardwareId), b)
  | kept
      {d : Device}
      (hDevice : b.store.devices.get? e.hardwareId = some d)
      (hUpdates : e.updateState = false) :
      RouteOf b e (.ok (), b.record d e.hardwareId e)
  | unused
      {d : Device}
      {err : StoreError}
      (hDevice : b.store.devices.get? e.hardwareId = some d)
      (hUpdates : e.updateState = true)
      (hUse : ∀ token, d.assignmentToken = some token →
        b.store.assignments.get? token = none)
      (hRefusal : b.store.refusal? true e.hardwareId =
        some err) :
      RouteOf b e (.error err, b.record d e.hardwareId e)
  | changed
      {d : Device}
      {token : String}
      {a : DeviceAssignment}
      (hDevice : b.store.devices.get? e.hardwareId = some d)
      (hUpdates : e.updateState = true)
      (hToken : d.assignmentToken = some token)
      (hUse : b.store.assignments.get? token = some a) :
      RouteOf b e (.ok (),
        (b.record d e.hardwareId e).setUse a token
          (DeviceStore.stateAfter a.state
            (DeviceStore.stored d (b.eventId (b.created + 1))
              b.now e.hardwareId e)))

theorem routeOf_route
    (hFaults : b.faults = [])
    (e : DecodedEvent) :
    RouteOf b e (route b e) := by
  unfold route
  cases hDevice : b.store.devices.get? e.hardwareId with
  | none =>
      have hRefused : b.createEvent e.hardwareId e =
          .error (.unknownDevice e.hardwareId) := by
        simp [Backend.createEvent, Backend.guarded_eq hFaults,
          DeviceStore.createEvent, hDevice]
      simp only [hRefused]
      exact .refused hDevice
  | some d =>
      simp only [Backend.createEvent_eq hFaults hDevice]
      have hFaults' : (b.record d e.hardwareId e).faults = [] :=
        hFaults
      have hDevice' :
          (b.record d e.hardwareId e).store.devices.get?
            e.hardwareId = some d := hDevice
      cases hUpdates : e.updateState with
      | false => exact .kept hDevice hUpdates
      | true =>
          simp only [if_true, Backend.updateState,
            Backend.guarded_eq hFaults',
            DeviceStore.updateState, hDevice']
          cases hToken : d.assignmentToken with
          | none =>
              refine .unused hDevice hUpdates ?_ ?_
              · intro token hSome
                rw [hToken] at hSome
                cases hSome
              · simp [DeviceStore.refusal?, hDevice, hToken]
          | some token =>
              have hSame :
                  (b.record d e.hardwareId e).store.assignments =
                    b.store.assignments := rfl
              cases hUse : b.store.assignments.get? token with
              | none =>
                  simp only [hSame, hUse, error_bind]
                  refine .unused hDevice hUpdates ?_ ?_
                  · intro other hSome
                    rw [hToken] at hSome
                    cases hSome
                    exact hUse
                  · simp [DeviceStore.refusal?, hDevice, hToken,
                      hUse]
              | some a =>
                  simp only [hSame, hUse, ok_bind, pure_eq_ok]
                  exact .changed hDevice hUpdates hToken hUse

/- An event fails for the reason that the storage has. -/
theorem RouteOf.result_eq
    {e : DecodedEvent}
    {r : Except StoreError Unit × Backend}
    (hRoute : RouteOf b e r) :
    r.1 = b.store.verdict e := by
  unfold DeviceStore.verdict
  cases hRoute with
  | refused hDevice => simp [DeviceStore.refusal?, hDevice]
  | kept hDevice hUpdates =>
      simp [DeviceStore.refusal?, hDevice, hUpdates]
  | unused hDevice hUpdates hUse hRefusal =>
      rw [hUpdates, hRefusal]
  | changed hDevice hUpdates hToken hUse =>
      simp [DeviceStore.refusal?, hDevice, hUpdates, hToken,
        hUse]

/- Routing an event keeps it if its device is known. -/
theorem RouteOf.took
    {e : DecodedEvent}
    {r : Except StoreError Unit × Backend}
    (hRoute : RouteOf b e r) :
    b.Took [e] r.2 := by
  cases hRoute with
  | refused hDevice => exact Backend.took_of_unknown hDevice
  | kept hDevice =>
      exact Backend.took_of_record hDevice (.refl _) rfl
  | unused hDevice =>
      exact Backend.took_of_record hDevice (.refl _) rfl
  | @changed d token a hDevice hUpdates hToken hUse =>
      refine Backend.took_of_record hDevice
        ⟨rfl, rfl, rfl, ?_⟩ rfl
      intro other
      have hSame :
          (b.record d e.hardwareId e).store.assignments =
            b.store.assignments := rfl
      simp only [hSame, Dict.get?_insert]
      by_cases hOther : other = token
      · rw [if_pos hOther, hOther, hUse]
        rfl
      · rw [if_neg hOther]

/- What is kept of an event, in the form in which it is kept. -/
theorem keptAs_kept
    (b : Backend)
    (e : DecodedEvent)
    (hardwareId : String) :
    List.Forall₂ b.store.KeptAs
      ([⟨b.now, e⟩].filter (b.store.keeps hardwareId))
      ((b.kept [e]).filter (·.hardwareId = hardwareId)) := by
  unfold Backend.kept
  cases hDevice : b.store.devices.get? e.hardwareId with
  | none =>
      have hNotKept :
          b.store.keeps hardwareId ⟨b.now, e⟩ = false := by
        simp only [DeviceStore.keeps, Bool.and_eq_false_iff,
          decide_eq_false_iff_not]
        by_cases hOwn : e.hardwareId = hardwareId
        · subst hOwn
          simp [hDevice]
        · exact .inl hOwn
      simp [hDevice, hNotKept]
  | some d =>
      by_cases hOwn : e.hardwareId = hardwareId
      · subst hOwn
        simp only [List.filterMap_cons, hDevice,
          Option.map_some, List.filterMap_nil,
          List.mapIdx_cons, List.mapIdx_nil]
        simp only [List.filter_cons, DeviceStore.keeps, hDevice,
          DeviceStore.stored, decide_true, Option.isSome_some,
          Bool.and_true, if_true, List.filter_nil]
        exact .cons ⟨d, _, hDevice, rfl⟩ .nil
      · simp [hDevice, hOwn, DeviceStore.keeps,
          DeviceStore.stored]

/- Routing an event changes no use but that of its device. -/
theorem RouteOf.assignments
    {e : DecodedEvent}
    {r : Except StoreError Unit × Backend}
    (hRoute : RouteOf b e r)
    (token : String) :
    r.2.store.assignments.get? token =
      (b.store.assignments.get? token).map
        (b.store.after token [⟨b.now, e⟩]) := by
  have hStays :
      b.store.changes token ⟨b.now, e⟩ = false ∨
          b.store.assignments.get? token = none →
        b.store.assignments.get? token =
          (b.store.assignments.get? token).map
            (b.store.after token [⟨b.now, e⟩]) := by
    rintro (hChanges | hNone)
    · have hSame :
          b.store.after token [⟨b.now, e⟩] = id := by
        funext a
        simp [DeviceStore.after, hChanges]
      rw [hSame, Option.map_id]
      rfl
    · rw [hNone]
      rfl
  cases hRoute with
  | refused hDevice =>
      refine hStays (.inl ?_)
      simp [DeviceStore.changes, DeviceStore.tokenOf?, hDevice]
  | kept hDevice hUpdates =>
      refine hStays (.inl ?_)
      simp [DeviceStore.changes, hUpdates]
  | @unused d err hDevice hUpdates hUse =>
      refine hStays ?_
      by_cases hToken : d.assignmentToken = some token
      · exact .inr (hUse token hToken)
      · left
        simp [DeviceStore.changes, DeviceStore.tokenOf?,
          hDevice, hToken]
  | @changed d own a hDevice hUpdates hToken hUse =>
      have hGet :
          ((b.record d e.hardwareId e).setUse a own
            (DeviceStore.stateAfter a.state
              (DeviceStore.stored d (b.eventId (b.created + 1))
                b.now e.hardwareId e))).store.assignments.get?
                  token =
            if token = own then
              some { a with state :=
                Arrival.change a.state ⟨b.now, e⟩ }
            else b.store.assignments.get? token :=
        Dict.get?_insert ..
      have hChanges :
          b.store.changes token ⟨b.now, e⟩ =
            decide (own = token) := by
        simp [DeviceStore.changes, DeviceStore.tokenOf?,
          hDevice, hUpdates, hToken]
      by_cases hOwn : token = own
      · subst hOwn
        rw [hGet, if_pos rfl, hUse]
        simp [DeviceStore.after, hChanges]
      · rw [hGet, if_neg hOwn]
        refine hStays (.inl ?_)
        simp [hChanges, Ne.symm hOwn]

/- Routing an event does to the store what the event says. -/
theorem RouteOf.records
    {e : DecodedEvent}
    {r : Except StoreError Unit × Backend}
    (hRoute : RouteOf b e r) :
    b.store.Records [⟨b.now, e⟩] r.2.store := by
  have hTook := hRoute.took
  refine ⟨hTook.alike.devices, hTook.alike.commands,
    hTook.alike.groups, hRoute.assignments, ?_⟩
  intro hardwareId
  exact ⟨_, hTook.eventsOf hardwareId,
    keptAs_kept b e hardwareId⟩

end Pipeline

------------------------------------------------------------
-- Event by Event
------------------------------------------------------------

/-
  The tally of events, the first of which stands at `index`:
  so many are routed, and the failures list in order exactly
  those that a store rejects.
-/
structure DeviceStore.Tally
    (s : DeviceStore)
    (config : PipelineConfig)
    (index : Nat)
    (events : List DecodedEvent)
    (routed : Nat)
    (failures : List RoutingFailure) : Prop where
  total : routed + failures.length = events.length
  ordered : failures.Pairwise (·.index < ·.index)
  late : ∀ f ∈ failures, index ≤ f.index
  listed : ∀ i, (∃ f ∈ failures, f.index = index + i) ↔
    ∃ e, events[i]? = some e ∧
      s.Rejects (e.updateState || config.updateState)
        e.hardwareId

namespace DeviceStore

/- How many events a store takes. -/
def routed
    (s : DeviceStore)
    (config : PipelineConfig)
    (events : List DecodedEvent) : Nat :=
  events.countP fun e =>
    (s.refusal? (e.updateState || config.updateState)
      e.hardwareId).isNone

/- The failures of events, the first of which is at `index`. -/
def failures
    (s : DeviceStore)
    (config : PipelineConfig) :
    Nat → List DecodedEvent → List RoutingFailure
  | _, [] => []
  | index, e :: rest =>
      match s.refusal? (e.updateState || config.updateState)
          e.hardwareId with
      | some err =>
          ⟨index, e.hardwareId, err.code, err.message⟩ ::
            s.failures config (index + 1) rest
      | none => s.failures config (index + 1) rest

theorem routed_cons
    (s : DeviceStore)
    (config : PipelineConfig)
    (e : DecodedEvent)
    (rest : List DecodedEvent) :
    s.routed config (e :: rest) =
      s.routed config [e] + s.routed config rest := by
  rw [← List.singleton_append]
  exact List.countP_append

theorem failures_cons
    (s : DeviceStore)
    (config : PipelineConfig)
    (index : Nat)
    (e : DecodedEvent)
    (rest : List DecodedEvent) :
    s.failures config index (e :: rest) =
      s.failures config index [e] ++
        s.failures config (index + 1) rest := by
  simp only [failures]
  cases s.refusal? (e.updateState || config.updateState)
      e.hardwareId with
  | none => rfl
  | some err => rfl

/- Alike stores take the same events. -/
theorem Alike.routed_eq
    {s s' : DeviceStore}
    (hAlike : s.Alike s')
    (config : PipelineConfig)
    (events : List DecodedEvent) :
    s'.routed config events = s.routed config events := by
  simp only [routed, hAlike.refusal?_eq]

/- Alike stores list the same failures. -/
theorem Alike.failures_eq
    {s s' : DeviceStore}
    (hAlike : s.Alike s')
    (config : PipelineConfig)
    (index : Nat)
    (events : List DecodedEvent) :
    s'.failures config index events =
      s.failures config index events := by
  induction events generalizing index with
  | nil => rfl
  | cons e rest ih =>
      simp only [failures, hAlike.refusal?_eq, ih]

section Tallied

variable {s : DeviceStore}
variable {config : PipelineConfig}
variable {index : Nat}
variable {e : DecodedEvent}
variable {rest : List DecodedEvent}
variable {routed : Nat}
variable {failures : List RoutingFailure}

theorem tally_nil
    (s : DeviceStore)
    (config : PipelineConfig)
    (index : Nat) :
    s.Tally config index [] 0 [] := by
  refine ⟨rfl, .nil, ?_, ?_⟩
  · intro f hf
    cases hf
  · intro i
    simp

/- An event that is not rejected comes before the others. -/
theorem Tally.cons_taken
    (hRest : s.Tally config (index + 1) rest routed failures)
    (hTaken : ¬ s.Rejects
      (e.updateState || config.updateState) e.hardwareId) :
    s.Tally config index (e :: rest) (1 + routed)
      failures := by
  refine ⟨?_, hRest.ordered, ?_, ?_⟩
  · rw [List.length_cons, ← hRest.total, Nat.add_comm 1,
      Nat.add_right_comm]
  · intro f hf
    exact Nat.le_of_succ_le (hRest.late f hf)
  · intro i
    cases i with
    | zero =>
        constructor
        · rintro ⟨f, hf, hIndex⟩
          have hLate := hRest.late f hf
          omega
        · rintro ⟨_, hHere, hReject⟩
          cases hHere
          exact absurd hReject hTaken
    | succ i =>
        have hListed := hRest.listed i
        rw [List.getElem?_cons_succ, ← hListed,
          Nat.add_right_comm, Nat.add_assoc]

/- An event that is rejected is listed before the others. -/
theorem Tally.cons_rejected
    (hRest : s.Tally config (index + 1) rest routed failures)
    (hReject : s.Rejects
      (e.updateState || config.updateState) e.hardwareId)
    {f : RoutingFailure}
    (hIndex : f.index = index) :
    s.Tally config index (e :: rest) routed
      (f :: failures) := by
  refine ⟨?_, ?_, ?_, ?_⟩
  · rw [List.length_cons, List.length_cons, ← hRest.total,
      Nat.add_assoc]
  · refine List.pairwise_cons.2 ⟨?_, hRest.ordered⟩
    intro g hg
    have hLate := hRest.late g hg
    omega
  · intro g hg
    rcases List.mem_cons.1 hg with rfl | hg
    · exact Nat.le_of_eq hIndex.symm
    · exact Nat.le_of_succ_le (hRest.late g hg)
  · intro i
    cases i with
    | zero =>
        constructor
        · intro _
          exact ⟨e, rfl, hReject⟩
        · intro _
          exact ⟨f, List.mem_cons_self, hIndex⟩
    | succ i =>
        rw [List.getElem?_cons_succ, ← hRest.listed i]
        constructor
        · rintro ⟨g, hg, hPlace⟩
          rcases List.mem_cons.1 hg with rfl | hg
          · omega
          · exact ⟨g, hg, by omega⟩
        · rintro ⟨g, hg, hPlace⟩
          exact ⟨g, List.mem_cons_of_mem f hg, by omega⟩

end Tallied

/- What a store takes and what it fails are all events. -/
theorem tally_failures
    (s : DeviceStore)
    (config : PipelineConfig)
    (index : Nat)
    (events : List DecodedEvent) :
    s.Tally config index events (s.routed config events)
      (s.failures config index events) := by
  induction events generalizing index with
  | nil => exact tally_nil s config index
  | cons e rest ih =>
      have hRejects := s.rejects_iff_refusal?
        (e.updateState || config.updateState) e.hardwareId
      rw [s.routed_cons config e rest]
      cases hRefusal : s.refusal?
          (e.updateState || config.updateState)
          e.hardwareId with
      | none =>
          rw [hRefusal] at hRejects
          simp only [routed, failures, hRefusal,
            List.countP_singleton, Option.isNone_none, if_true]
          refine (ih (index + 1)).cons_taken ?_
          intro hRejected
          rcases hRejects.1 hRejected with ⟨err, hNone⟩
          cases hNone
      | some err =>
          rw [hRefusal] at hRejects
          simp only [routed, failures, hRefusal,
            List.countP_singleton, Option.isNone_some,
            Bool.false_eq_true, if_false, Nat.zero_add]
          exact (ih (index + 1)).cons_rejected
            (hRejects.2 ⟨err, rfl⟩) rfl

end DeviceStore

namespace Pipeline

namespace Routing

/- So many more events routed, and more failures listed. -/
def more
    (r : Routing)
    (routed : Nat)
    (failures : List RoutingFailure)
    (b : Backend) : Routing :=
  ⟨{ r.metrics with
      eventsRouted := r.metrics.eventsRouted + routed
      routingFailures :=
        r.metrics.routingFailures + failures.length },
    { r.report with
      routed := r.report.routed + routed
      failures := r.report.failures ++ failures }, b⟩

theorem more_none
    (r : Routing) :
    r.more 0 [] r.backend = r := by
  simp [more]

theorem more_more
    (r : Routing)
    (routed routed' : Nat)
    (failures failures' : List RoutingFailure)
    (b b' : Backend) :
    (r.more routed failures b).more routed' failures' b' =
      r.more (routed + routed') (failures ++ failures') b' := by
  simp [more, Nat.add_assoc]

end Routing

variable {p : Pipeline}
variable {r : Routing}

/-
  One event is counted, or its failure is listed, and the
  storage takes it in either case.
-/
theorem routeNext_eq
    (hFaults : r.backend.faults = [])
    (index : Nat)
    (e : DecodedEvent) :
    ∃ b', p.routeNext index e r =
        r.more (r.backend.store.routed p.config [e])
          (r.backend.store.failures p.config index [e]) b' ∧
      r.backend.Took [e] b' ∧
      r.backend.store.Records
        [⟨r.backend.now, p.marked e⟩] b'.store := by
  have hRoute := routeOf_route hFaults (p.marked e)
  have hResult : (route r.backend (p.marked e)).1 =
      match r.backend.store.refusal?
          (e.updateState || p.config.updateState)
          e.hardwareId with
      | some err => .error err
      | none => .ok () := hRoute.result_eq
  refine ⟨(route r.backend (p.marked e)).2, ?_,
    hRoute.took.of_marked, hRoute.records⟩
  unfold routeNext
  generalize route r.backend (p.marked e) = routed at hResult ⊢
  rcases routed with ⟨result, b'⟩
  cases hRefusal : r.backend.store.refusal?
      (e.updateState || p.config.updateState)
      e.hardwareId with
  | none =>
      rw [hRefusal] at hResult
      cases hResult
      simp [Routing.more, DeviceStore.routed,
        DeviceStore.failures, hRefusal]
  | some err =>
      rw [hRefusal] at hResult
      cases hResult
      simp [Routing.more, DeviceStore.routed,
        DeviceStore.failures, hRefusal]

/-
  All events are routed, whatever becomes of each; what the
  store refuses at the end it refused at the beginning.
-/
theorem routeAll_eq
    (hFaults : r.backend.faults = [])
    (index : Nat)
    (events : List DecodedEvent) :
    ∃ b', p.routeAll index events r =
        r.more (r.backend.store.routed p.config events)
          (r.backend.store.failures p.config index events) b' ∧
      r.backend.Took events b' ∧
      r.backend.store.Records
        (events.map fun e => ⟨r.backend.now, p.marked e⟩)
        b'.store := by
  induction events generalizing r index with
  | nil =>
      exact ⟨r.backend, r.more_none.symm, .nil _, .nil _⟩
  | cons e rest ih =>
      rcases routeNext_eq (p := p) hFaults index e with
        ⟨b', hNext, hTook, hRecords⟩
      have hFaults' : b'.faults = [] :=
        hTook.faults.trans hFaults
      rcases ih (r := r.more _ _ b') hFaults' (index + 1) with
        ⟨b'', hAll, hTookRest, hRecordsRest⟩
      refine ⟨b'', ?_, hTook.cons hTookRest, ?_⟩
      · unfold routeAll
        rw [hNext, hAll, Routing.more_more,
          DeviceStore.routed_cons _ _ e rest,
          DeviceStore.failures_cons _ _ index e rest,
          ← hTook.alike.routed_eq p.config rest,
          ← hTook.alike.failures_eq p.config _ rest]
        rfl
      · have hNow : b'.now = r.backend.now := hTook.now
        rw [← hNow] at hRecords ⊢
        exact hRecords.append hRecordsRest

end Pipeline

end DeviceHub
