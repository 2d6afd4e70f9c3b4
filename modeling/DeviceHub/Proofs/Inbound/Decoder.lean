import DeviceHub.Inbound.Session
import DeviceHub.Proofs.Lifecycle.Leaf

/-
  The decoder of a pipeline: it is there exactly while the
  pipeline is at work, and payloads are handed to it then and
  to no other.

  Nothing is asked of the storage here, which may fail any
  call.

  Key definitions include:
    * `PipelineSession.Equipped`
    * `PipelineSession.Hands`

  Main statements:
    * `PipelineSession.Equipped.control`
    * `PipelineSession.Equipped.run`
    * `PipelineSession.hands_iff`
    * `PipelineSession.decoder_iff_started`
-/

namespace DeviceHub

------------------------------------------------------------
-- One Payload
------------------------------------------------------------

namespace Pipeline

variable {p : Pipeline}
variable {b : Backend}
variable {decode :
  List UInt8 → Context → Except CodecError (List DecodedEvent)}
variable {payload : List UInt8}
variable {context : Context}

/- Routing events does not change how many there were. -/
theorem decoded_routeAll
    (p : Pipeline)
    (index : Nat)
    (events : List DecodedEvent)
    (r : Routing) :
    (p.routeAll index events r).report.decoded =
      r.report.decoded := by
  induction events generalizing index r with
  | nil => rfl
  | cons e rest ih =>
      rw [routeAll, ih]
      unfold routeNext
      split <;> rfl

/- A payload that is not decoded is reported as such. -/
theorem result_of_error
    {e : CodecError}
    (hDecode : decode payload
      (context.withSource p.config.sourceId) = .error e) :
    (p.receiveWith decode b payload context).result =
      .error (.decode e) := by
  simp only [receiveWith, hDecode]

/- One that is decoded gets a report, whatever is stored. -/
theorem result_of_ok
    {events : List DecodedEvent}
    (hDecode : decode payload
      (context.withSource p.config.sourceId) = .ok events) :
    ∃ report,
      (p.receiveWith decode b payload context).result =
          .ok report ∧
        report.decoded = events.length := by
  simp only [receiveWith, hDecode]
  exact ⟨_, rfl, p.decoded_routeAll 0 events _⟩

/- What a start looks for: the decoder of the kind, if any. -/
theorem findDecoder_cases
    (p : Pipeline)
    (registry : CodecRegistry) :
    (∃ d, registry.decoders.get? p.config.payloadKind =
        some d ∧
      p.findDecoder registry =
        (.ok (), { p with decoder := some d })) ∨
    ∃ e, p.findDecoder registry = (.error e, p) := by
  unfold findDecoder
  cases hFound :
      registry.decoders.get? p.config.payloadKind with
  | some d => exact .inl ⟨d, rfl, rfl⟩
  | none => exact .inr ⟨_, rfl⟩

/- A hook leaves the counters alone. -/
theorem metrics_hooks
    {κ : Type}
    (registry : CodecRegistry)
    (c : Component κ)
    (hook : Hook)
    (p : Pipeline) :
    (hooks registry c hook p).2.metrics = p.metrics := by
  cases hook with
  | start =>
      change (p.findDecoder registry).2.metrics = p.metrics
      rcases p.findDecoder_cases registry with
        ⟨d, -, hFind⟩ | ⟨e, hFind⟩
      · rw [hFind]
      · rw [hFind]
  | pause | resume | stop => rfl

/- A payload changes nothing of a pipeline but its counters. -/
theorem pipeline_receiveBy
    (decoding : Decoding)
    (p : Pipeline)
    (status : Status)
    (b : Backend)
    (payload : List UInt8)
    (context : Context) :
    ∃ m, (p.receiveBy decoding status b payload context
      ).pipeline = { p with metrics := m } := by
  unfold receiveBy
  dsimp only
  split
  · split
    · unfold receiveWith
      dsimp only
      split <;> exact ⟨_, rfl⟩
    · exact ⟨_, rfl⟩
  · exact ⟨_, rfl⟩

end Pipeline

------------------------------------------------------------
-- The Decoder Between Calls
------------------------------------------------------------

namespace PipelineSession

variable {κ : Type}
variable {setting : PipelineSetting}
variable {registry : CodecRegistry}
variable {config : PipelineConfig}
variable {s : PipelineSession κ}

/-
  A pipeline at work has the decoder of its kind of payload,
  and any other pipeline has none.
-/
structure Equipped
    (registry : CodecRegistry)
    (config : PipelineConfig)
    (s : PipelineSession κ) : Prop where
  simple : s.component.IsSimple
  configured : s.pipeline.config = config
  atWork : s.component.status = .started →
    ∃ d, registry.decoders.get? config.payloadKind =
        some d ∧ s.pipeline.decoder = some d
  atRest : s.component.status ≠ .started →
    s.pipeline.decoder = none

theorem equipped_new
    (registry : CodecRegistry)
    (label : κ)
    (config : PipelineConfig)
    (b : Backend) :
    (new label config b).Equipped registry config := by
  refine ⟨Component.isSimple_new _ _ _, rfl, ?_, fun _ => rfl⟩
  intro hStarted
  cases hStarted

/- A lifecycle call keeps decoder and status together. -/
theorem Equipped.control
    (hEquipped : s.Equipped setting.registry config)
    (now : Instant)
    (action : LifecycleAction) :
    (s.step setting now (.control action)).2.Equipped
      setting.registry config := by
  have hCall := Tree.leafCall
    (Pipeline.hooks setting.registry) action hEquipped.simple
    s.pipeline
  have hSimple := hCall.isSimple hEquipped.simple
  simp only [step]
  generalize Tree.call (Pipeline.hooks setting.registry) action
    (.leaf s.component) s.pipeline = o at hCall hSimple ⊢
  cases hCall with
  | idle => exact hEquipped
  | started hStatus hHook =>
      rcases s.pipeline.findDecoder_cases setting.registry with
        ⟨d, hFound, hFind⟩ | ⟨e, hFind⟩
      · cases hFind.symm.trans hHook
        rw [hEquipped.configured] at hFound
        refine ⟨hSimple, hEquipped.configured,
          fun _ => ⟨d, hFound, rfl⟩, ?_⟩
        intro hIdle
        exact absurd rfl hIdle
      · cases hFind.symm.trans hHook
  | unstarted hStatus hHook =>
      rcases s.pipeline.findDecoder_cases setting.registry with
        ⟨d, hFound, hFind⟩ | ⟨e, hFind⟩
      · cases hFind.symm.trans hHook
      · cases hFind.symm.trans hHook
        refine ⟨hSimple, hEquipped.configured, nofun,
          fun _ => hEquipped.atRest ?_⟩
        rw [hStatus]
        exact Status.noConfusion
  | stopped hStatus hHook =>
      cases hHook
      exact ⟨hSimple, hEquipped.configured, nofun,
        fun _ => rfl⟩
  | unstopped hStatus hHook => cases hHook
  | cleared hStatus =>
      refine ⟨hSimple, hEquipped.configured, nofun,
        fun _ => hEquipped.atRest ?_⟩
      rw [hStatus]
      exact Status.noConfusion

/- A payload touches neither the decoder nor the status. -/
theorem Equipped.payload
    (hEquipped : s.Equipped setting.registry config)
    (now : Instant)
    (bytes : List UInt8)
    (context : Context) :
    (s.step setting now (.payload bytes context)).2.Equipped
      setting.registry config := by
  rcases s.pipeline.pipeline_receiveBy setting.decoding
      s.component.status { s.backend with now := now } bytes
      context with ⟨m, hPipeline⟩
  simp only [step]
  rw [hPipeline]
  exact ⟨hEquipped.simple, hEquipped.configured,
    hEquipped.atWork, hEquipped.atRest⟩

theorem Equipped.step
    (hEquipped : s.Equipped setting.registry config)
    (now : Instant)
    (request : PipelineRequest) :
    (s.step setting now request).2.Equipped setting.registry
      config := by
  cases request with
  | payload bytes context =>
      exact hEquipped.payload now bytes context
  | control action => exact hEquipped.control now action

theorem Equipped.run
    (hEquipped : s.Equipped setting.registry config)
    (calls : List (Instant × PipelineRequest)) :
    (s.run setting calls).Equipped setting.registry config :=
  runAll_keeps
    (P := fun s : PipelineSession κ =>
      s.Equipped setting.registry config)
    (fun _ call hEquipped => hEquipped.step call.1 call.2)
    hEquipped calls

/- There is a decoder at work only, the registered one. -/
theorem Equipped.decoder_iff
    (hEquipped : s.Equipped registry config)
    {d : Decoder} :
    s.pipeline.decoder = some d ↔
      s.component.status = .started ∧
        registry.decoders.get? config.payloadKind = some d := by
  by_cases hStatus : s.component.status = .started
  · rcases hEquipped.atWork hStatus with
      ⟨x, hFound, hDecoder⟩
    rw [hFound, hDecoder, and_iff_right hStatus]
  · rw [hEquipped.atRest hStatus]
    exact iff_of_false nofun fun hBoth => hStatus hBoth.1

------------------------------------------------------------
-- Who Decodes a Payload
------------------------------------------------------------

/-
  A payload is handed to a decoder: whatever decoders may do
  with payloads, it is this one that decides the answer.
-/
def Hands
    (registry : CodecRegistry)
    (s : PipelineSession κ)
    (now : Instant)
    (bytes : List UInt8)
    (context : Context)
    (d : Decoder) : Prop :=
  ∀ decoding : Decoding,
    let decoded := decoding d bytes
      (context.withSource s.pipeline.config.sourceId)
    let answer := (s.step ⟨registry, decoding⟩ now
      (.payload bytes context)).1
    (∀ e, decoded = .error e →
      answer = .received (.error (.decode e))) ∧
    ∀ events, decoded = .ok events →
      ∃ report, answer = .received (.ok report) ∧
        report.decoded = events.length

variable {now : Instant}
variable {bytes : List UInt8}
variable {context : Context}

/- A pipeline that is not at work refuses every payload. -/
theorem answer_of_not_started
    (hStatus : s.component.status ≠ .started)
    (setting : PipelineSetting) :
    (s.step setting now (.payload bytes context)).1 =
      .received
        (.error (.notRunning s.pipeline.config.sourceId)) := by
  simp only [step, Pipeline.receiveBy, if_neg hStatus]

/- One at work answers what comes of its own decoder's work. -/
theorem answer_of_decoder
    (hStatus : s.component.status = .started)
    {d : Decoder}
    (hDecoder : s.pipeline.decoder = some d)
    (setting : PipelineSetting) :
    (s.step setting now (.payload bytes context)).1 =
      .received (s.pipeline.receiveWith (setting.decoding d)
        { s.backend with now := now } bytes context).result := by
  simp only [step, Pipeline.receiveBy, if_pos hStatus, hDecoder]

/- There is no other way to be refused. -/
theorem Equipped.refused_iff
    (hEquipped : s.Equipped registry config) :
    (s.step setting now (.payload bytes context)).1 =
        .received
          (.error (.notRunning s.pipeline.config.sourceId)) ↔
      s.component.status ≠ .started := by
  refine ⟨fun hRefused hStatus => ?_,
    fun hStatus => answer_of_not_started hStatus setting⟩
  rcases hEquipped.atWork hStatus with ⟨d, -, hDecoder⟩
  rw [answer_of_decoder hStatus hDecoder] at hRefused
  cases hDecode : setting.decoding d bytes
      (context.withSource s.pipeline.config.sourceId) with
  | error e =>
      rw [Pipeline.result_of_error hDecode] at hRefused
      cases hRefused
  | ok events =>
      rcases Pipeline.result_of_ok
          (b := { s.backend with now := now }) hDecode with
        ⟨report, hReport, -⟩
      rw [hReport] at hRefused
      cases hRefused

/- At work, a payload goes to the decoder that is there. -/
theorem hands_of_decoder
    (hStatus : s.component.status = .started)
    {d : Decoder}
    (hDecoder : s.pipeline.decoder = some d) :
    s.Hands registry now bytes context d := by
  intro decoding decoded answer
  have hAnswer : answer = _ :=
    answer_of_decoder hStatus hDecoder ⟨registry, decoding⟩
  refine ⟨fun e hError => ?_, fun events hOk => ?_⟩
  · rw [hAnswer, Pipeline.result_of_error hError]
  · rcases Pipeline.result_of_ok
        (b := { s.backend with now := now }) hOk with
      ⟨report, hReport, hLength⟩
    exact ⟨report, hAnswer.trans (congrArg _ hReport), hLength⟩

/-
  A payload is handed to the decoder of a pipeline at work,
  and to no other.
-/
theorem hands_iff
    (hEquipped : s.Equipped registry config)
    {d : Decoder} :
    s.Hands registry now bytes context d ↔
      s.component.status = .started ∧
        s.pipeline.decoder = some d := by
  classical
  refine ⟨fun hHands => ?_, fun hBoth =>
    hands_of_decoder hBoth.1 hBoth.2⟩
  -- If this decoder alone fails, a failure tells it was asked.
  let decoding : Decoding := fun x _ _ =>
    if x = d then .error (.malformedPayload "") else .ok []
  have hAnswer := (hHands decoding).1 _ (if_pos rfl)
  by_cases hStatus : s.component.status = .started
  · rcases hEquipped.atWork hStatus with ⟨x, -, hDecoder⟩
    rw [answer_of_decoder hStatus hDecoder ⟨registry, decoding⟩]
      at hAnswer
    by_cases hSame : x = d
    · exact ⟨hStatus, hSame ▸ hDecoder⟩
    · have hDecode : decoding x bytes
          (context.withSource s.pipeline.config.sourceId) =
            .ok [] := if_neg hSame
      rcases Pipeline.result_of_ok
          (b := { s.backend with now := now }) hDecode with
        ⟨report, hReport, -⟩
      rw [hReport] at hAnswer
      cases hAnswer
  · rw [answer_of_not_started hStatus] at hAnswer
    cases hAnswer

/-
  After any calls a pipeline has a decoder exactly if it is
  at work, and then the one that is registered for its kind
  of payload.  A payload is refused exactly if the pipeline
  is not at work; otherwise it is handed to this decoder and
  to no other.
-/
theorem decoder_iff_started
    (setting : PipelineSetting)
    (label : κ)
    (config : PipelineConfig)
    (b : Backend)
    (calls : List (Instant × PipelineRequest)) :
    let s := (new label config b).run setting calls
    (s.pipeline.decoder.isSome = true ↔
      s.component.status = .started) ∧
    (∀ d, s.pipeline.decoder = some d →
      setting.registry.decoders.get? config.payloadKind =
        some d) ∧
    ∀ now bytes context,
      ((s.step setting now (.payload bytes context)).1 =
          .received (.error (.notRunning config.sourceId)) ↔
        s.component.status ≠ .started) ∧
      ∀ d, s.Hands setting.registry now bytes context d ↔
        s.component.status = .started ∧
          setting.registry.decoders.get? config.payloadKind =
            some d := by
  intro s
  have hEquipped : s.Equipped setting.registry config :=
    (equipped_new setting.registry label config b).run calls
  refine ⟨⟨fun hSome => ?_, fun hStatus => ?_⟩,
    fun d hDecoder => (hEquipped.decoder_iff.1 hDecoder).2,
    fun now bytes context => ⟨?_, fun d => ?_⟩⟩
  · rcases Option.isSome_iff_exists.1 hSome with ⟨d, hDecoder⟩
    exact (hEquipped.decoder_iff.1 hDecoder).1
  · rcases hEquipped.atWork hStatus with ⟨d, -, hDecoder⟩
    rw [hDecoder]
    rfl
  · rw [← hEquipped.configured]
    exact hEquipped.refused_iff
  · rw [hands_iff hEquipped, hEquipped.decoder_iff,
      ← and_assoc, and_self]

/- A pipeline starts if its kind of payload is known. -/
example :
    let setting : PipelineSetting :=
      ⟨.standard, Decoder.decode⟩
    let started kind :=
      (new () ⟨"mqtt", kind, false⟩
        (.of .empty default fun _ => "event")).run setting
          [(default, .control .start)]
    (started "binary").pipeline.decoder = some .binary ∧
      (started "morse").pipeline.decoder = none :=
  ⟨rfl, rfl⟩

end PipelineSession

end DeviceHub
