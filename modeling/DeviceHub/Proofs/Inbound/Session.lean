import DeviceHub.Hub.Equipment
import DeviceHub.Proofs.Inbound.Decoder
import DeviceHub.Proofs.Inbound.Routing
import DeviceHub.Proofs.Lifecycle.Keeping
import Mathlib.Algebra.GroupWithZero.Nat

/-
  The accounts of a pipeline: what every payload does to the
  counters and to the storage, in every state that calls can
  lead to.

  A pipeline at work has the decoder of its kind of payload,
  and any other pipeline has none.

  Key definitions include:
    * `PipelineMetrics.Balanced`, `PipelineMetrics.InWords`
    * `PayloadReport.Accounts`
    * `DeviceStore.report`
    * `PipelineSession.Sound`
    * `PipelineSession.ReceiptOf`

  Main statements:
    * `PipelineSession.receiptOf_step`
    * `PipelineSession.Sound.step`
    * `PipelineSession.Sound.run`
    * `PipelineSession.accounting`
-/

namespace DeviceHub

------------------------------------------------------------
-- Counters and Reports
------------------------------------------------------------

namespace PipelineMetrics

/- No event and no payload is lost from the counters. -/
structure Balanced
    (m : PipelineMetrics) : Prop where
  events : m.eventsDecoded = m.eventsRouted + m.routingFailures
  payloads : m.decodeFailures ≤ m.payloadsReceived

/- Every counter is a word of 64 bits. -/
structure InWords
    (m : PipelineMetrics) : Prop where
  payloadsReceived : m.payloadsReceived < 2 ^ 64
  eventsDecoded : m.eventsDecoded < 2 ^ 64
  eventsRouted : m.eventsRouted < 2 ^ 64
  decodeFailures : m.decodeFailures < 2 ^ 64
  routingFailures : m.routingFailures < 2 ^ 64

/- Where all counters balance, two of them bound the others. -/
theorem Balanced.inWords
    {m : PipelineMetrics}
    (hBalanced : m.Balanced)
    (hPayloads : m.payloadsReceived < 2 ^ 64)
    (hEvents : m.eventsDecoded < 2 ^ 64) :
    m.InWords := by
  have hTotal := hBalanced.events
  have hFailures := hBalanced.payloads
  constructor <;> omega

/- The counters after a payload that is not decoded. -/
def undecoded
    (m : PipelineMetrics) : PipelineMetrics :=
  { m with
    payloadsReceived := m.payloadsReceived + 1
    decodeFailures := m.decodeFailures + 1 }

/- The counters after a payload with a report. -/
def reported
    (m : PipelineMetrics)
    (r : PayloadReport) : PipelineMetrics :=
  { m with
    payloadsReceived := m.payloadsReceived + 1
    eventsDecoded := m.eventsDecoded + r.decoded
    eventsRouted := m.eventsRouted + r.routed
    routingFailures := m.routingFailures + r.failures.length }

end PipelineMetrics

/- The number of events that an answer reports as decoded. -/
def PipelineAnswer.decoded : PipelineAnswer → Nat
  | received (.ok report) => report.decoded
  | _ => 0

/-
  The report of events that come to a store: every event is
  routed or listed, and it is listed if the store rejects it.
-/
structure PayloadReport.Accounts
    (r : PayloadReport)
    (config : PipelineConfig)
    (s : DeviceStore)
    (events : List DecodedEvent) : Prop where
  decoded : r.decoded = events.length
  total : r.routed + r.failures.length = r.decoded
  ordered : r.failures.Pairwise (·.index < ·.index)
  listed : ∀ i, (∃ f ∈ r.failures, f.index = i) ↔
    ∃ e, events[i]? = some e ∧
      s.Rejects (e.updateState || config.updateState)
        e.hardwareId

/- The report of events that come to a store. -/
def DeviceStore.report
    (s : DeviceStore)
    (config : PipelineConfig)
    (events : List DecodedEvent) : PayloadReport :=
  ⟨events.length, s.routed config events,
    s.failures config 0 events⟩

theorem DeviceStore.accounts_report
    (s : DeviceStore)
    (config : PipelineConfig)
    (events : List DecodedEvent) :
    (s.report config events).Accounts config s events := by
  have hTally := s.tally_failures config 0 events
  refine ⟨rfl, hTally.total, hTally.ordered, ?_⟩
  intro i
  have hListed := hTally.listed i
  rw [Nat.zero_add] at hListed
  exact hListed

------------------------------------------------------------
-- One Payload
------------------------------------------------------------

namespace Pipeline

/- The hub's hooks for its pipelines are the pipelines' own. -/
theorem pipelineHook_eq
    {κ : Type}
    {e : Equipment}
    {place : Nat}
    {p : Pipeline}
    (hPipeline : e.pipelines[place]? = some p)
    (c : Component κ)
    {hook : Hook}
    (hHook : hook = .start ∨ hook = .stop) :
    Equipment.pipelineHook place hook e =
      ((hooks e.registry c hook p).1,
        e.setPipeline place (hooks e.registry c hook p).2) := by
  unfold Equipment.pipelineHook
  rcases hHook with rfl | rfl
  · simp only [hPipeline]
    rfl
  · simp only [hPipeline]
    rfl

variable {p : Pipeline}
variable {b : Backend}

/- A payload that is not decoded. -/
theorem receiveWith_error
    {decode : List UInt8 → Context →
      Except CodecError (List DecodedEvent)}
    {payload : List UInt8}
    {context : Context}
    {e : CodecError}
    (hDecode : decode payload
      (context.withSource p.config.sourceId) = .error e) :
    p.receiveWith decode b payload context =
      ⟨.error (.decode e),
        { p with metrics := p.metrics.undecoded }, b⟩ := by
  unfold receiveWith
  simp only [hDecode]
  rfl

/- A payload that is decoded is taken event by event. -/
theorem receiveWith_ok
    (hFaults : b.faults = [])
    {decode : List UInt8 → Context →
      Except CodecError (List DecodedEvent)}
    {payload : List UInt8}
    {context : Context}
    {events : List DecodedEvent}
    (hDecode : decode payload
      (context.withSource p.config.sourceId) = .ok events) :
    ∃ b',
      p.receiveWith decode b payload context =
          ⟨.ok (b.store.report p.config events),
            { p with
              metrics := p.metrics.reported
                (b.store.report p.config events) }, b'⟩ ∧
        b.Took events b' ∧
        b.store.Records
          (events.map fun e => ⟨b.now, p.marked e⟩)
          b'.store := by
  unfold receiveWith
  simp only [hDecode]
  rcases routeAll_eq (p := p) (r := ⟨_, _, b⟩) hFaults 0
      events with
    ⟨b', hAll, hTook, hRecords⟩
  rw [hAll]
  refine ⟨b', ?_, hTook, hRecords⟩
  simp [Routing.more, PipelineMetrics.reported,
    DeviceStore.report]

end Pipeline

------------------------------------------------------------
-- Any Number of Calls
------------------------------------------------------------

namespace PipelineSession

variable {κ : Type}
variable {setting : PipelineSetting}
variable {config : PipelineConfig}
variable {s : PipelineSession κ}

/- What holds of a pipeline between calls. -/
structure Sound
    (setting : PipelineSetting)
    (config : PipelineConfig)
    (s : PipelineSession κ) : Prop where
  simple : s.component.IsSimple
  configured : s.pipeline.config = config
  atWork : s.component.status = .started →
    ∃ d, setting.registry.decoders.get? config.payloadKind =
        some d ∧ s.pipeline.decoder = some d
  atRest : s.component.status ≠ .started →
    s.pipeline.decoder = none
  faults : s.backend.faults = []
  balanced : s.pipeline.metrics.Balanced

theorem Sound.equipped
    (hSound : s.Sound setting config) :
    s.Equipped setting.registry config :=
  ⟨hSound.simple, hSound.configured, hSound.atWork,
    hSound.atRest⟩

/- What is sound of a pipeline beside its decoder. -/
theorem Equipped.sound
    (hEquipped : s.Equipped setting.registry config)
    (hFaults : s.backend.faults = [])
    (hBalanced : s.pipeline.metrics.Balanced) :
    s.Sound setting config :=
  ⟨hEquipped.simple, hEquipped.configured, hEquipped.atWork,
    hEquipped.atRest, hFaults, hBalanced⟩

theorem sound_new
    (setting : PipelineSetting)
    (label : κ)
    (config : PipelineConfig)
    (store : DeviceStore)
    (now : Instant)
    (eventId : Nat → String) :
    (new label config (.of store now eventId)).Sound setting
      config :=
  (equipped_new setting.registry label config _).sound rfl
    ⟨rfl, Nat.le_refl 0⟩

/- The ways in which a payload can go. -/
inductive ReceiptOf
    (setting : PipelineSetting)
    (config : PipelineConfig)
    (s : PipelineSession κ)
    (now : Instant)
    (bytes : List UInt8)
    (context : Context) :
    PipelineAnswer × PipelineSession κ → Prop where
  | refused
      (hStatus : s.component.status ≠ .started) :
      ReceiptOf setting config s now bytes context
        (.received (.error (.notRunning config.sourceId)),
          ⟨s.pipeline, s.component,
            { s.backend with now := now }⟩)
  | undecoded
      {d : Decoder}
      {e : CodecError}
      (hStatus : s.component.status = .started)
      (hFound : setting.registry.decoders.get?
        config.payloadKind = some d)
      (hDecode : setting.decoding d bytes
        (context.withSource config.sourceId) = .error e) :
      ReceiptOf setting config s now bytes context
        (.received (.error (.decode e)),
          ⟨{ s.pipeline with
              metrics := s.pipeline.metrics.undecoded },
            s.component, { s.backend with now := now }⟩)
  | reported
      {d : Decoder}
      {events : List DecodedEvent}
      {report : PayloadReport}
      {b' : Backend}
      (hStatus : s.component.status = .started)
      (hFound : setting.registry.decoders.get?
        config.payloadKind = some d)
      (hDecode : setting.decoding d bytes
        (context.withSource config.sourceId) = .ok events)
      (hAccounts : report.Accounts config s.backend.store
        events)
      (hTook : { s.backend with now := now }.Took events b') :
      ReceiptOf setting config s now bytes context
        (.received (.ok report),
          ⟨{ s.pipeline with
              metrics := s.pipeline.metrics.reported report },
            s.component, b'⟩)

theorem receiptOf_step
    (hSound : s.Sound setting config)
    (now : Instant)
    (bytes : List UInt8)
    (context : Context) :
    ReceiptOf setting config s now bytes context
      (s.step setting now (.payload bytes context)) := by
  rcases hSound.configured with rfl
  simp only [step, Pipeline.receiveBy]
  by_cases hStatus : s.component.status = .started
  · rcases hSound.atWork hStatus with ⟨d, hFound, hDecoder⟩
    simp only [if_pos hStatus, hDecoder]
    cases hDecode : setting.decoding d bytes
        (context.withSource s.pipeline.config.sourceId) with
    | error e =>
        rw [Pipeline.receiveWith_error hDecode]
        exact .undecoded hStatus hFound hDecode
    | ok events =>
        rcases Pipeline.receiveWith_ok
            (b := { s.backend with now := now })
            hSound.faults hDecode with
          ⟨b', hReceive, hTook, -⟩
        rw [hReceive]
        exact .reported hStatus hFound hDecode
          (s.backend.store.accounts_report _ events) hTook
  · rw [if_neg hStatus]
    exact .refused hStatus

/- A lifecycle call changes no counter. -/
theorem step_control
    (hSound : s.Sound setting config)
    (now : Instant)
    (action : LifecycleAction) :
    (s.step setting now (.control action)).2.Sound setting
        config ∧
      (s.step setting now (.control action)).2.pipeline.metrics =
        s.pipeline.metrics := by
  have hMetrics :
      (s.step setting now (.control action)).2.pipeline.metrics =
        s.pipeline.metrics := by
    refine Tree.call_keeps
      (Q := fun p : Pipeline => p.metrics = s.pipeline.metrics)
      (fun c hook p hp => ?_) action _ rfl
    exact (Pipeline.metrics_hooks _ c hook p).trans hp
  refine ⟨?_, hMetrics⟩
  refine (hSound.equipped.control now action).sound
    hSound.faults ?_
  rw [hMetrics]
  exact hSound.balanced

/- A payload keeps what holds of a pipeline. -/
theorem sound_step_payload
    (hSound : s.Sound setting config)
    (now : Instant)
    (bytes : List UInt8)
    (context : Context) :
    (s.step setting now (.payload bytes context)).2.Sound
      setting config := by
  have hEquipped :=
    hSound.equipped.payload now bytes context
  have hReceipt := receiptOf_step hSound now bytes context
  generalize s.step setting now (.payload bytes context) = r
    at hEquipped hReceipt ⊢
  cases hReceipt with
  | refused =>
      exact hEquipped.sound hSound.faults hSound.balanced
  | undecoded =>
      refine hEquipped.sound hSound.faults
        ⟨hSound.balanced.events, ?_⟩
      exact Nat.succ_le_succ hSound.balanced.payloads
  | reported _ _ _ hAccounts hTook =>
      refine hEquipped.sound
        (hTook.faults.trans hSound.faults) ⟨?_, ?_⟩
      · have hEvents := hSound.balanced.events
        have hTotal := hAccounts.total
        simp only [PipelineMetrics.reported]
        omega
      · exact Nat.le_succ_of_le hSound.balanced.payloads

theorem Sound.step
    (hSound : s.Sound setting config)
    (now : Instant)
    (request : PipelineRequest) :
    (s.step setting now request).2.Sound setting config := by
  cases request with
  | payload bytes context =>
      exact sound_step_payload hSound now bytes context
  | control action =>
      exact (step_control hSound now action).1

theorem Sound.run
    (hSound : s.Sound setting config)
    (calls : List (Instant × PipelineRequest)) :
    (s.run setting calls).Sound setting config :=
  runAll_keeps
    (P := fun s : PipelineSession κ => s.Sound setting config)
    (fun _ call hSound => hSound.step call.1 call.2)
    hSound calls

/- A call counts a payload at most, and the events decoded. -/
theorem counters_step
    (hSound : s.Sound setting config)
    (now : Instant)
    (request : PipelineRequest) :
    let r := s.step setting now request
    r.2.pipeline.metrics.payloadsReceived ≤
        s.pipeline.metrics.payloadsReceived + 1 ∧
      r.2.pipeline.metrics.eventsDecoded =
        s.pipeline.metrics.eventsDecoded + r.1.decoded := by
  intro r
  cases request with
  | control action =>
      rw [(step_control hSound now action).2]
      exact ⟨Nat.le_succ _, rfl⟩
  | payload bytes context =>
      have hReceipt : ReceiptOf setting config s now bytes
          context r := receiptOf_step hSound now bytes context
      generalize r = r' at hReceipt ⊢
      cases hReceipt with
      | refused => exact ⟨Nat.le_succ _, rfl⟩
      | undecoded => exact ⟨Nat.le_refl _, rfl⟩
      | reported => exact ⟨Nat.le_refl _, rfl⟩

/- Over any calls of a new pipeline all of these are counted. -/
theorem counters_run
    (hSound : s.Sound setting config)
    (hNew : s.pipeline.metrics = ⟨0, 0, 0, 0, 0⟩)
    (calls : List (Instant × PipelineRequest)) :
    (s.run setting calls
        ).pipeline.metrics.payloadsReceived ≤ calls.length ∧
      (s.run setting calls).pipeline.metrics.eventsDecoded =
        ((s.answers setting calls).map (·.decoded)).sum := by
  refine (runAll_induct
    (P := fun taken (answers : List PipelineAnswer)
        (s : PipelineSession κ) =>
      s.Sound setting config ∧
        s.pipeline.metrics.payloadsReceived ≤ taken.length ∧
        s.pipeline.metrics.eventsDecoded =
          (answers.map (·.decoded)).sum)
    ?_ ⟨hSound, by simp [hNew], by simp [hNew]⟩ calls).2
  rintro taken answers s ⟨now, request⟩
    ⟨hSound, hPayloads, hEvents⟩
  rcases counters_step hSound now request with
    ⟨hPayloads', hEvents'⟩
  refine ⟨hSound.step now request, ?_, ?_⟩
  · rw [List.length_append]
    exact Nat.le_trans hPayloads'
      (Nat.succ_le_succ hPayloads)
  · rw [List.map_append, List.sum_append, ← hEvents]
    exact hEvents'

/-
  In every state that calls lead to, the counters balance,
  and each is a word while the calls and the events decoded
  can be counted in one; a lifecycle call changes neither
  them nor the storage; and a payload is refused, fails to
  decode, or is reported on, each with its own effects and no
  others.
-/
theorem accounting
    (setting : PipelineSetting)
    (label : κ)
    (config : PipelineConfig)
    (store : DeviceStore)
    (start : Instant)
    (eventId : Nat → String)
    (calls : List (Instant × PipelineRequest)) :
    let s := (new label config (.of store start eventId)).run
      setting calls
    s.pipeline.metrics.Balanced ∧
      (calls.length < 2 ^ 64 →
        (((new label config (.of store start eventId)).answers
          setting calls).map (·.decoded)).sum < 2 ^ 64 →
        s.pipeline.metrics.InWords) ∧
      (∀ now action,
        let s' := (s.step setting now (.control action)).2
        s'.pipeline.metrics = s.pipeline.metrics ∧
          s'.backend = s.backend) ∧
      ∀ now bytes context,
        let r := s.step setting now (.payload bytes context)
        (s.component.status ≠ .started →
          r.1 = .received
              (.error (.notRunning config.sourceId)) ∧
            r.2.pipeline = s.pipeline ∧
            r.2.backend.store = s.backend.store) ∧
        (s.component.status = .started → ∃ d,
          setting.registry.decoders.get? config.payloadKind =
              some d ∧
            (∀ e, setting.decoding d bytes
                (context.withSource config.sourceId) =
                  .error e →
              r.1 = .received (.error (.decode e)) ∧
                r.2.pipeline.metrics =
                  s.pipeline.metrics.undecoded ∧
                r.2.backend.store = s.backend.store) ∧
            ∀ events, setting.decoding d bytes
                (context.withSource config.sourceId) =
                  .ok events →
              ∃ report,
                r.1 = .received (.ok report) ∧
                  report.Accounts config s.backend.store
                    events ∧
                  r.2.pipeline.metrics =
                    s.pipeline.metrics.reported report ∧
                  { s.backend with now := now }.Took events
                    r.2.backend) := by
  intro s
  have hNew :=
    sound_new setting label config store start eventId
  have hSound : s.Sound setting config := hNew.run calls
  refine ⟨hSound.balanced, ?_, ?_, ?_⟩
  · intro hCalls hDecoded
    rcases counters_run hNew rfl calls with
      ⟨hPayloads, hEvents⟩
    exact hSound.balanced.inWords
      (Nat.lt_of_le_of_lt hPayloads hCalls)
      (hEvents.symm ▸ hDecoded)
  · intro now action
    exact ⟨(step_control hSound now action).2, rfl⟩
  · intro now bytes context r
    have hReceipt : ReceiptOf setting config s now bytes context
        r := receiptOf_step hSound now bytes context
    generalize r = r' at hReceipt ⊢
    cases hReceipt with
    | refused hStatus =>
        exact ⟨fun _ => ⟨rfl, rfl, rfl⟩,
          fun hStarted => absurd hStarted hStatus⟩
    | undecoded hStatus hFound hDecode =>
        refine ⟨absurd hStatus, fun _ => ⟨_, hFound, ?_, ?_⟩⟩
        · intro e hError
          cases hDecode.symm.trans hError
          exact ⟨rfl, rfl, rfl⟩
        · intro events hOk
          cases hDecode.symm.trans hOk
    | reported hStatus hFound hDecode hAccounts hTook =>
        refine ⟨absurd hStatus, fun _ => ⟨_, hFound, ?_, ?_⟩⟩
        · intro e hError
          cases hDecode.symm.trans hError
        · intro events hOk
          cases hDecode.symm.trans hOk
          exact ⟨_, rfl, hAccounts, rfl, hTook⟩

/-
  Of two events, the first is from an unknown device and the
  second cannot change the state of any use; both are listed,
  and the second is kept.
-/
theorem accounting_isolated :
    let ack := EventKind.commandResponse "inv-1" none "ok"
    let events : List DecodedEvent :=
      [.new "dev-9" ack,
        { DecodedEvent.new "dev-7" ack with
          updateState := true }]
    let setting : PipelineSetting :=
      ⟨.standard, fun _ _ _ => .ok events⟩
    let store := DeviceStore.empty.addDevice
      (.new "dev-7" "spec" default)
    let s : PipelineSession Unit :=
      (new () ⟨"mqtt", "binary", false⟩
        (.of store default fun _ => "event")).run setting
          [(default, .control .start)]
    let r := s.step setting default (.payload [] .empty)
    s.component.status = .started ∧
      ∃ report, r.1 = .received (.ok report) ∧
        report.decoded = 2 ∧
        (∃ f ∈ report.failures, f.index = 0) ∧
        (∃ f ∈ report.failures, f.index = 1) ∧
        r.2.backend.store.eventsOf "dev-7" =
          [⟨"event", "dev-7", none, none, ack, default, default,
            .empty⟩] := by
  intro ack events setting store s r
  have hStarted : s.component.status = .started := rfl
  rcases (accounting setting () ⟨"mqtt", "binary", false⟩
      store default (fun _ => "event")
      [(default, .control .start)]).2.2.2 default [] .empty
    with ⟨_, hTaken⟩
  rcases hTaken hStarted with ⟨d, _, _, hDecoded⟩
  rcases hDecoded events rfl with
    ⟨report, hReport, hAccounts, _, hTook⟩
  refine ⟨hStarted, report, hReport, hAccounts.decoded, ?_, ?_,
    ?_⟩
  · exact (hAccounts.listed 0).2 ⟨_, rfl, .inl rfl⟩
  · refine (hAccounts.listed 1).2
      ⟨_, rfl, .inr ⟨rfl, _, rfl, ?_⟩⟩
    intro token hToken
    cases hToken
  · rw [hTook.eventsOf]
    rfl

end PipelineSession

end DeviceHub
