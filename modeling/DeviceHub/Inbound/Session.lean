import DeviceHub.Inbound.Pipeline
import DeviceHub.Run

/-
  A pipeline in use: payloads and lifecycle calls, one after
  the other, each at its own time.

  Key definitions include:
    * `Pipeline.hooks`
    * `PipelineSetting`
    * `PipelineRequest`
    * `PipelineSession`
    * `PipelineSession.step`
    * `PipelineSession.runAnswering`
    * `PipelineSession.run`
    * `PipelineSession.answers`
-/

namespace DeviceHub

/- What a pipeline does at its turns. -/
def Pipeline.hooks
    {κ : Type}
    (registry : CodecRegistry) : Hooks κ Pipeline :=
  fun _ hook p =>
    match hook with
    | .start => p.findDecoder registry
    | .stop => p.dropDecoder
    | _ => (.ok (), p)

/- The decoders by kind, and what they do. -/
structure PipelineSetting where
  registry : CodecRegistry
  decoding : Decoding

/- A call of a pipeline. -/
inductive PipelineRequest where
  | payload
      (bytes : List UInt8)
      (context : Context)
  | control (action : LifecycleAction)

/- What a pipeline answers to a call. -/
inductive PipelineAnswer where
  | received (result : Except PipelineError PayloadReport)
  | controlled (result : Except LifecycleError Status)

/- A pipeline with its component and its storage. -/
structure PipelineSession (κ : Type) where
  pipeline : Pipeline
  component : Component κ
  backend : Backend

namespace PipelineSession

variable {κ : Type}

/- A pipeline as it is made, over a storage. -/
def new
    (label : κ)
    (config : PipelineConfig)
    (b : Backend) : PipelineSession κ :=
  ⟨.new config,
    .new label (Pipeline.componentName config)
      .inboundPipeline, b⟩

/- Make one call at a time. -/
def step
    (setting : PipelineSetting)
    (s : PipelineSession κ)
    (now : Instant)
    (request : PipelineRequest) :
    PipelineAnswer × PipelineSession κ :=
  match request with
  | .payload bytes context =>
      let r := s.pipeline.receiveBy setting.decoding
        s.component.status { s.backend with now := now } bytes
        context
      (.received r.result,
        ⟨r.pipeline, s.component, r.backend⟩)
  | .control action =>
      let o := Tree.call (Pipeline.hooks setting.registry)
        action (.leaf s.component) s.pipeline
      (.controlled o.result,
        ⟨o.state, o.tree.self, s.backend⟩)

/- Make calls one after the other; all answers, in order. -/
def runAnswering
    (setting : PipelineSetting)
    (s : PipelineSession κ)
    (calls : List (Instant × PipelineRequest)) :
    List PipelineAnswer × PipelineSession κ :=
  runAll (fun s call =>
    ([(s.step setting call.1 call.2).1],
      (s.step setting call.1 call.2).2)) s calls

/- What calls lead to that are made one after the other. -/
def run
    (setting : PipelineSetting)
    (s : PipelineSession κ)
    (calls : List (Instant × PipelineRequest)) :
    PipelineSession κ :=
  (s.runAnswering setting calls).2

/- What they are answered. -/
def answers
    (setting : PipelineSetting)
    (s : PipelineSession κ)
    (calls : List (Instant × PipelineRequest)) :
    List PipelineAnswer :=
  (s.runAnswering setting calls).1

end PipelineSession

end DeviceHub
