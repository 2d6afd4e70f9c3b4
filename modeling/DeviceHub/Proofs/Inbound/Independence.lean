import DeviceHub.Proofs.Inbound.Session
import Mathlib.Data.List.FinRange
import Mathlib.Data.List.Perm.Basic

/-
  Payloads that have nothing to do with one another may come
  in any order.

  What a payload is answered depends on no event before it,
  and what becomes of a device and of its use depends only on
  the order of the events that name them.

  Key definitions include:
    * `DeviceStore.Related`
    * `Payload`
    * `PipelineSession.Dependent`
    * `PipelineSession.Twin`
    * `PipelineSession.answerTo`

  Main statements:
    * `same_arrivals`
    * `PipelineSession.step_payload_eq`
    * `PipelineSession.run_payloads`
    * `PipelineSession.independent_payloads_commute`
-/

namespace DeviceHub

------------------------------------------------------------
-- Events in Two Orders
------------------------------------------------------------

section Reordered

variable {n : Nat}
variable {order : List (Fin n)}

/- What leaves no trace may be left out. -/
theorem flatMap_filter_of_nil
    {α β : Type}
    {keep : α → Bool}
    {f : α → List β}
    (hNil : ∀ a, keep a = false → f a = [])
    (l : List α) :
    (l.filter keep).flatMap f = l.flatMap f := by
  induction l with
  | nil => rfl
  | cons a rest ih =>
      cases hKeep : keep a with
      | true => simp [hKeep, ih]
      | false => simp [hKeep, ih, hNil a hKeep]

/- Those that keep their order stand as they did before. -/
theorem filter_eq_of_ordered
    (hAll : order.Perm (List.finRange n))
    {keep : Fin n → Bool}
    (hOrdered : order.Pairwise fun i j =>
      keep i = true → keep j = true → i < j) :
    order.filter keep = (List.finRange n).filter keep := by
  have hMixed : (order.filter keep).Pairwise (· < ·) :=
    List.pairwise_filter.2 hOrdered
  have hPlain :
      ((List.finRange n).filter keep).Pairwise (· < ·) :=
    (List.pairwise_lt_finRange n).filter keep
  refine List.Perm.eq_of_pairwise ?_ hMixed hPlain
    (hAll.filter keep)
  intro i j _ _ hLess hMore
  exact absurd hMore (Nat.lt_asymm hLess)

/- The events of each, at the time of each. -/
def arrivals
    (events : Fin n → List DecodedEvent)
    (time : Fin n → Instant)
    (order : List (Fin n)) : List Arrival :=
  order.flatMap fun i => (events i).map fun e => ⟨time i, e⟩

/- The times of each. -/
def timePairs
    (time time' : Fin n → Instant) : List (Instant × Instant) :=
  (List.finRange n).map fun i => (time i, time' i)

/-
  The events that pass a test come in the same order if those
  that have such events do.
-/
theorem same_arrivals
    (hAll : order.Perm (List.finRange n))
    (events : Fin n → List DecodedEvent)
    (time time' : Fin n → Instant)
    (test : DecodedEvent → Bool)
    (hOrdered : order.Pairwise fun i j =>
      (∃ e ∈ events i, test e = true) →
        (∃ e ∈ events j, test e = true) → i < j) :
    List.Forall₂ (Arrival.Same (timePairs time time'))
      ((arrivals events time (List.finRange n)).filter
        fun x => test x.event)
      ((arrivals events time' order).filter
        fun x => test x.event) := by
  let keep (i : Fin n) : Bool := (events i).any test
  have hNil : ∀ (time : Fin n → Instant) i, keep i = false →
      ((events i).map fun e => Arrival.mk (time i) e).filter
        (fun x => test x.event) = [] := by
    intro time i hKeep
    refine List.filter_eq_nil_iff.2 ?_
    intro x hx hTest
    rcases List.mem_map.1 hx with ⟨e, he, rfl⟩
    have hAny := List.any_eq_true.2 ⟨e, he, hTest⟩
    exact absurd (hAny.symm.trans hKeep) Bool.noConfusion
  have hSame : order.filter keep =
      (List.finRange n).filter keep := by
    refine filter_eq_of_ordered hAll (hOrdered.imp ?_)
    intro i j hLess hFirst hSecond
    exact hLess (List.any_eq_true.1 hFirst)
      (List.any_eq_true.1 hSecond)
  unfold arrivals
  rw [List.filter_flatMap, List.filter_flatMap,
    ← flatMap_filter_of_nil (hNil time),
    ← flatMap_filter_of_nil (hNil time'), hSame]
  refine List.rel_flatMap (R := Eq)
    (List.forall₂_same.2 fun _ _ => rfl) ?_
  rintro i _ rfl
  refine List.rel_filter ?_ ?_
  · intro x x' hx
    change test x.event = true ↔ test x'.event = true
    rw [hx.event]
  · refine List.forall₂_map_left_iff.2
      (List.forall₂_map_right_iff.2 (List.forall₂_same.2 ?_))
    intro e _
    exact ⟨List.mem_map_of_mem (List.mem_finRange i), rfl⟩

end Reordered

------------------------------------------------------------
-- Payloads That Have to Do with One Another
------------------------------------------------------------

namespace DeviceStore

/-
  Two ids have to do with one another if they are the same,
  or if the devices with these ids point to the same use.
-/
def Related
    (s : DeviceStore)
    (hardwareId other : String) : Prop :=
  hardwareId = other ∨ ∃ token,
    s.tokenOf? hardwareId = some token ∧
      s.tokenOf? other = some token

instance
    (s : DeviceStore)
    (hardwareId other : String) :
    Decidable (s.Related hardwareId other) :=
  decidable_of_iff
    (hardwareId = other ∨
      ((s.tokenOf? hardwareId).isSome = true ∧
        s.tokenOf? other = s.tokenOf? hardwareId)) (by
    unfold Related
    cases s.tokenOf? hardwareId with
    | none => simp
    | some token => simp)

end DeviceStore

/- A payload with the facts that come with it. -/
structure Payload where
  bytes : List UInt8
  context : Context

/- The call that hands over a payload at a time. -/
def Payload.call
    (now : Instant)
    (x : Payload) : Instant × PipelineRequest :=
  (now, .payload x.bytes x.context)

/- The counters after a payload has been answered. -/
def PipelineMetrics.after
    (m : PipelineMetrics) :
    Except PipelineError PayloadReport → PipelineMetrics
  | .ok r => m.reported r
  | .error (.decode _) => m.undecoded
  | .error (.notRunning _) => m

/- In what order payloads are counted does not matter. -/
instance : RightCommutative PipelineMetrics.after :=
  ⟨by
    intro m answer answer'
    rcases answer with (_ | _) | r
    · rfl
    · rcases answer' with (_ | _) | r'
      · rfl
      · rfl
      · rfl
    · rcases answer' with (_ | _) | r'
      · rfl
      · rfl
      · simp [PipelineMetrics.after, PipelineMetrics.reported,
          Nat.add_right_comm]⟩

namespace PipelineSession

variable {κ : Type}

/- What a pipeline makes of a payload, if it is at work. -/
def decoded?
    (setting : PipelineSetting)
    (s : PipelineSession κ)
    (x : Payload) :
    Option (Except CodecError (List DecodedEvent)) :=
  if s.component.status = .started then
    s.pipeline.decoder.map fun d =>
      setting.decoding d x.bytes
        (x.context.withSource s.pipeline.config.sourceId)
  else none

/- The events that a payload brings, as they are routed. -/
def eventsOf
    (setting : PipelineSetting)
    (s : PipelineSession κ)
    (x : Payload) : List DecodedEvent :=
  match s.decoded? setting x with
  | some (.ok events) => events.map s.pipeline.marked
  | _ => []

/-
  Payloads depend on one another if they name the same device,
  or devices that point to the same use.
-/
def Dependent
    (setting : PipelineSetting)
    (s : PipelineSession κ)
    (x x' : Payload) : Prop :=
  ∃ e ∈ s.eventsOf setting x, ∃ e' ∈ s.eventsOf setting x',
    s.backend.store.Related e.hardwareId e'.hardwareId

instance
    (setting : PipelineSetting)
    (s : PipelineSession κ)
    (x x' : Payload) :
    Decidable (s.Dependent setting x x') :=
  inferInstanceAs (Decidable (∃ e ∈ _, ∃ e' ∈ _, _))

/- What a payload is answered. -/
def answerTo
    (setting : PipelineSetting)
    (s : PipelineSession κ)
    (x : Payload) : Except PipelineError PayloadReport :=
  match s.decoded? setting x with
  | none => .error (.notRunning s.pipeline.config.sourceId)
  | some (.error e) => .error (.decode e)
  | some (.ok events) =>
      .ok (s.backend.store.report s.pipeline.config events)

/- The pipeline after an answer, over the storage then. -/
def answered
    (setting : PipelineSetting)
    (s : PipelineSession κ)
    (x : Payload)
    (b : Backend) : PipelineSession κ :=
  ⟨{ s.pipeline with
      metrics := s.pipeline.metrics.after
        (s.answerTo setting x) },
    s.component, b⟩

/-
  The same pipeline over the same store; the clocks and the
  ids to give out may differ.
-/
structure Twin
    (s u : PipelineSession κ) : Prop where
  pipeline : u.pipeline = s.pipeline
  status : u.component.status = s.component.status
  store : u.backend.store = s.backend.store
  faults : s.backend.faults = []
  faults' : u.backend.faults = []

/- A pipeline that has come from another by payloads only. -/
structure Kin
    (s t : PipelineSession κ) : Prop where
  config : t.pipeline.config = s.pipeline.config
  decoder : t.pipeline.decoder = s.pipeline.decoder
  status : t.component.status = s.component.status
  alike : s.backend.store.Alike t.backend.store

variable {setting : PipelineSetting}
variable {s t u : PipelineSession κ}

theorem Kin.decoded?_eq
    (hKin : s.Kin t)
    (x : Payload) :
    t.decoded? setting x = s.decoded? setting x := by
  simp only [decoded?, hKin.status, hKin.decoder, hKin.config]

theorem Kin.eventsOf_eq
    (hKin : s.Kin t)
    (x : Payload) :
    t.eventsOf setting x = s.eventsOf setting x := by
  have hMarked : t.pipeline.marked = s.pipeline.marked := by
    funext e
    simp only [Pipeline.marked, hKin.config]
  simp only [eventsOf, hKin.decoded?_eq, hMarked]

/- A payload is answered as it would have been before. -/
theorem Kin.answerTo_eq
    (hKin : s.Kin t)
    (x : Payload) :
    t.answerTo setting x = s.answerTo setting x := by
  simp only [answerTo, hKin.decoded?_eq, hKin.config,
    DeviceStore.report, hKin.alike.routed_eq,
    hKin.alike.failures_eq]

------------------------------------------------------------
-- One Payload
------------------------------------------------------------

/- What one payload comes to. -/
theorem step_payload_eq
    (setting : PipelineSetting)
    (hFaults : s.backend.faults = [])
    (now : Instant)
    (x : Payload) :
    ∃ b',
      s.step setting now (.payload x.bytes x.context) =
          (.received (s.answerTo setting x),
            s.answered setting x b') ∧
        b'.faults = [] ∧
        s.backend.store.Records
          ((s.eventsOf setting x).map fun e => ⟨now, e⟩)
          b'.store := by
  rcases s with ⟨⟨config, decoder, metrics⟩, c, b⟩
  simp only [step, Pipeline.receiveBy, answered, answerTo,
    eventsOf, decoded?]
  by_cases hStatus : c.status = .started
  · simp only [if_pos hStatus]
    cases decoder with
    | none => exact ⟨_, rfl, hFaults, .nil _⟩
    | some d =>
        simp only [Option.map_some]
        cases hDecode : setting.decoding d x.bytes
            (x.context.withSource config.sourceId) with
        | error e =>
            rw [Pipeline.receiveWith_error hDecode]
            exact ⟨_, rfl, hFaults, .nil _⟩
        | ok events =>
            rcases Pipeline.receiveWith_ok
                (p := ⟨config, some d, metrics⟩)
                (b := { b with now := now }) hFaults hDecode with
              ⟨b', hReceive, hTook, hRecords⟩
            rw [hReceive]
            refine ⟨b', rfl, hTook.faults.trans hFaults, ?_⟩
            rw [List.map_map]
            exact hRecords
  · simp only [if_neg hStatus]
    exact ⟨_, rfl, hFaults, .nil _⟩

------------------------------------------------------------
-- Any Number of Payloads
------------------------------------------------------------

/- Payloads, each handed over at its own time. -/
def calls
    {α : Type}
    (payload : α → Payload)
    (time : α → Instant)
    (order : List α) : List (Instant × PipelineRequest) :=
  order.map fun i => (payload i).call (time i)

/-
  Each payload is answered as it would be at the beginning;
  the counters count these answers; and the store takes the
  events of all.
-/
theorem run_payloads
    (setting : PipelineSetting)
    (hFaults : s.backend.faults = [])
    {α : Type}
    (payload : α → Payload)
    (time : α → Instant)
    (order : List α) :
    s.answers setting (calls payload time order) =
        order.map (fun i =>
          .received (s.answerTo setting (payload i))) ∧
      (s.run setting (calls payload time order)).pipeline =
        { s.pipeline with
          metrics := (order.map fun i =>
            s.answerTo setting (payload i)).foldl
              PipelineMetrics.after s.pipeline.metrics } ∧
      s.backend.store.Records
        (order.flatMap fun i =>
          (s.eventsOf setting (payload i)).map fun e =>
            ⟨time i, e⟩)
        (s.run setting (calls payload time order)).backend.store
      := by
  induction order generalizing s with
  | nil => exact ⟨rfl, rfl, .nil _⟩
  | cons i rest ih =>
      rcases step_payload_eq setting hFaults (time i)
          (payload i) with
        ⟨b', hStep, hFaults', hRecords⟩
      have hKin : s.Kin (s.answered setting (payload i) b') :=
        ⟨rfl, rfl, rfl, hRecords.alike⟩
      rcases ih (s := s.answered setting (payload i) b')
          hFaults' with
        ⟨hAnswers, hPipeline, hRest⟩
      simp only [hKin.answerTo_eq, hKin.eventsOf_eq]
        at hAnswers hPipeline hRest
      simp only [calls, List.map_cons, Payload.call, answers,
        run, runAnswering, runAll_cons, hStep]
      exact ⟨congrArg _ hAnswers, hPipeline,
        hRecords.append hRest⟩

------------------------------------------------------------
-- Payloads in Two Orders
------------------------------------------------------------

theorem Twin.kin
    (hTwin : s.Twin u) :
    s.Kin u := by
  refine ⟨?_, ?_, hTwin.status, ?_⟩
  · rw [hTwin.pipeline]
  · rw [hTwin.pipeline]
  · rw [hTwin.store]
    exact .refl _

/-
  Payloads may come in any order that keeps those in order
  that depend on one another.  Each is answered the same, the
  counters come to the same, and so does the storage, but for
  the ids it gave out and what the clock showed.
-/
theorem independent_payloads_commute
    (setting : PipelineSetting)
    (hTwin : s.Twin u)
    (payloads : List Payload)
    (time time' : Fin payloads.length → Instant)
    {order : List (Fin payloads.length)}
    (hAll : order.Perm (List.finRange payloads.length))
    (hOrdered : order.Pairwise fun i j =>
      s.Dependent setting (payloads.get i) (payloads.get j) →
        i < j) :
    let plain := calls payloads.get time
      (List.finRange payloads.length)
    let mixed := calls payloads.get time' order
    (∃ result : Fin payloads.length →
        Except PipelineError PayloadReport,
      s.answers setting plain =
          (List.finRange payloads.length).map
            (fun i => .received (result i)) ∧
        u.answers setting mixed =
          order.map (fun i => .received (result i))) ∧
      (u.run setting mixed).pipeline =
        (s.run setting plain).pipeline ∧
      DeviceStore.SameBut (timePairs time time')
        s.backend.store (s.run setting plain).backend.store
        (u.run setting mixed).backend.store := by
  intro plain mixed
  have hKin := hTwin.kin
  rcases run_payloads setting hTwin.faults
      payloads.get time (List.finRange payloads.length) with
    ⟨hAnswers, hPipeline, hRecords⟩
  rcases run_payloads setting hTwin.faults'
      payloads.get time' order with
    ⟨hAnswers', hPipeline', hRecords'⟩
  simp only [hKin.answerTo_eq, hKin.eventsOf_eq,
    hTwin.pipeline, hTwin.store]
    at hAnswers' hPipeline' hRecords'
  let events (i : Fin payloads.length) :=
    s.eventsOf setting (payloads.get i)
  refine ⟨⟨_, hAnswers, hAnswers'⟩, ?_, ?_⟩
  · rw [hPipeline, hPipeline', (hAll.map _).foldl_eq]
  · refine hRecords.sameBut hRecords' ?_ ?_
    · -- payloads that name the same device
      intro hardwareId
      refine same_arrivals hAll events time time'
        (fun e => e.hardwareId = hardwareId &&
          (s.backend.store.devices.get? hardwareId).isSome)
        (hOrdered.imp ?_)
      rintro i j hLess ⟨e, he, hTest⟩ ⟨e', he', hTest'⟩
      rw [Bool.and_eq_true, decide_eq_true_iff]
        at hTest hTest'
      exact hLess ⟨e, he, e', he',
        .inl (hTest.1.trans hTest'.1.symm)⟩
    · -- payloads that name devices with the same use
      intro token
      refine same_arrivals hAll events time time'
        (fun e => e.updateState &&
          s.backend.store.tokenOf? e.hardwareId = some token)
        (hOrdered.imp ?_)
      rintro i j hLess ⟨e, he, hTest⟩ ⟨e', he', hTest'⟩
      rw [Bool.and_eq_true, decide_eq_true_iff]
        at hTest hTest'
      exact hLess ⟨e, he, e', he',
        .inr ⟨token, hTest.2, hTest'.2⟩⟩

/-
  Two devices share a use and a third has one of its own; its
  payload may overtake the first.
-/
theorem independent_payloads_commute_overtaken :
    let devices := ["dev-1", "dev-2", "dev-3"].foldl
      (fun s id => s.addDevice (.new id "spec" default))
      DeviceStore.empty
    let store :=
      [("t-1", "dev-1"), ("t-1", "dev-2"), ("t-3", "dev-3")
        ].foldl
          (fun s use => s.addAssignment (.new use.1 use.2))
          devices
    let setting : PipelineSetting := ⟨.standard, Decoder.decode⟩
    let start (now : Instant) (id : String) :
        PipelineSession Unit :=
      (new () ⟨"mqtt", "binary", true⟩
        (.of store now fun _ => id)).run setting
          [(default, .control .start)]
    let s := start default "event"
    let u := start ⟨60, 0⟩ "other"
    let payloads : List Payload :=
      ["dev-1", "dev-3", "dev-2"].map fun id =>
        ⟨Envelope.toBytes ⟨id, none, none, false,
          .acknowledge "inv" "ok"⟩, .empty⟩
    let order : List (Fin 3) := [1, 0, 2]
    s.Twin u ∧
      s.Dependent setting (payloads.get (0 : Fin 3))
        (payloads.get (2 : Fin 3)) ∧
      order.Perm (List.finRange 3) ∧
      (order.Pairwise fun i j =>
        s.Dependent setting (payloads.get i) (payloads.get j) →
          i < j) ∧
      (u.run setting (calls payloads.get (fun _ => ⟨60, 0⟩)
          order)).pipeline =
        (s.run setting (calls payloads.get (fun _ => default)
          (List.finRange 3))).pipeline := by
  intro devices store setting start s u payloads order
  have hTwin : s.Twin u := ⟨rfl, rfl, rfl, rfl, rfl⟩
  have hAll : order.Perm (List.finRange 3) := by decide
  have hOrdered : order.Pairwise fun i j =>
      s.Dependent setting (payloads.get i) (payloads.get j) →
        i < j := by
    decide +kernel
  refine ⟨hTwin, ?_, hAll, hOrdered, ?_⟩
  · decide +kernel
  · exact (independent_payloads_commute setting hTwin payloads
      (fun _ => default) (fun _ => ⟨60, 0⟩) hAll hOrdered).2.1

end PipelineSession

end DeviceHub
