import DeviceHub.Assets.Session
import DeviceHub.Hub.Equipment
import DeviceHub.Lifecycle.Session
import DeviceHub.Run

/-
  A federation of asset modules in use: modules are added,
  asked and refreshed, and components are asked to start and
  stop, one call after the other, while files may change from
  call to call.

  A module may have been in use by itself before it is added.
  What has been read is kept for statements about it.

  Key definitions include:
    * `AssetFederation.hooks`
    * `ModulePlan`
    * `FederationRequest`
    * `FederationAnswer`
    * `FederationSession`
    * `FederationSession.step`
    * `FederationSession.run`
    * `FederationTurn.held`
    * `FederationTurn.accepted`
    * `ModulePlan.assets`
-/

namespace DeviceHub

/- What the components of a federation do at their turns. -/
def AssetFederation.hooks
    (files : FileView) : Hooks Part AssetFederation :=
  fun c hook f =>
    match c.label with
    | .assetModule id =>
        match f.module? id with
        | .ok m =>
            let (result, m) := AssetModule.hooks files c hook m
            (result, f.replace m)
        | .error _ => (.ok (), f)
    | _ => (.ok (), f)

------------------------------------------------------------
-- New Modules
------------------------------------------------------------

/- Where the assets of a new module come from. -/
inductive AssetOrigin where
  | fixed (assets : List Asset)
  | file (path : String)

/- A source that has not been read. -/
def AssetOrigin.source : AssetOrigin → AssetSource
  | fixed assets => .fixed assets
  | file path => .ofFile path

/- How a module is made, and what is asked of it at first. -/
structure ModulePlan where
  id : String
  name : String
  type : AssetType
  origin : AssetOrigin
  cacheEnabled : Bool
  earlier : List (FileView × ModuleRequest)

namespace ModulePlan

/- The module as it is made. -/
def made
    (p : ModulePlan) : ModuleSession Part :=
  .new (.assetModule p.id) p.id p.name p.type p.origin.source
    p.cacheEnabled

/- The module as it is when it is added. -/
def used
    (p : ModulePlan) : ModuleSession Part :=
  (p.made.run p.earlier).2

/- The last array read until then; nothing if none was. -/
def held
    (p : ModulePlan)
    (path : String) : List Asset :=
  (p.made.loads path p.earlier).getLast?.getD []

end ModulePlan

------------------------------------------------------------
-- Requests and Answers
------------------------------------------------------------

/- A call of a federation, or of a component of it. -/
inductive FederationRequest where
  | register (plan : ModulePlan)
  | find (moduleId id : String)
  | search (moduleId criteria : String)
  | refresh (moduleId : String)
  | refreshAll
  | stats
  | control (address : Address) (action : LifecycleAction)

/- What a federation answers to a call. -/
inductive FederationAnswer where
  | registered (result : Except AssetError Unit)
  | found (result : Except AssetError (Option Asset))
  | listed (result : Except AssetError (List Asset))
  | refreshed (result : Except AssetError RefreshResponse)
  | refreshedAll (responses : List RefreshResponse)
  | stats (stats : List (String × CacheStats))
  | controlled (result : Option (Except LifecycleError Status))

/- How the refreshes went that an answer is about. -/
def FederationAnswer.responses :
    FederationAnswer → List RefreshResponse
  | refreshed (.ok response) => [response]
  | refreshedAll responses => responses
  | _ => []

/- Whether a hook was run that has loaded a module. -/
def HookRun.loads
    (r : HookRun Part)
    (id : String) : Bool :=
  r.label = .assetModule id && r.hook = .start && r.succeeded

/- A call with its answer, and the hooks that were run. -/
structure FederationTurn where
  files : FileView
  request : FederationRequest
  answer : FederationAnswer
  runs : List (HookRun Part)

namespace FederationTurn

/- Whether a refresh or a start has read a module anew. -/
def isReload
    (t : FederationTurn)
    (id : String) : Bool :=
  t.answer.responses.any (fun r =>
      r.moduleId == id && r.result = .successful) ||
    t.runs.any (·.loads id)

/-
  The array that a module comes with, or that is read for it
  from a file.
-/
def load?
    (t : FederationTurn)
    (id path : String) : Option (List Asset) :=
  match t.request, t.answer with
  | .register plan, .registered (.ok _) =>
      if plan.id = id then some (plan.held path) else none
  | _, _ =>
      if t.isReload id then
        (AssetSource.load t.files path).toOption
      else
        none

/- The last array read for a module; nothing if none was. -/
def held
    (turns : List FederationTurn)
    (id path : String) : List Asset :=
  (turns.filterMap (·.load? id path)).getLast?.getD []

/- The plan of a module that was taken in. -/
def accepted?
    (t : FederationTurn) : Option ModulePlan :=
  match t.request, t.answer with
  | .register plan, .registered (.ok _) => some plan
  | _, _ => none

/- The plans of the modules taken in, in order. -/
def accepted
    (turns : List FederationTurn) : List ModulePlan :=
  turns.filterMap accepted?

end FederationTurn

/- The assets of a module, where its file has these. -/
def ModulePlan.assets
    (p : ModulePlan)
    (held : String → List Asset) : List Asset :=
  match p.origin with
  | .fixed assets => assets
  | .file path => held path

------------------------------------------------------------
-- Sessions
------------------------------------------------------------

/- A federation with the components that stand for it. -/
structure FederationSession where
  federation : AssetFederation
  tree : Tree Part

namespace FederationSession

/- A federation as it is made. -/
def new : FederationSession :=
  ⟨.empty, .leaf (.new .assets AssetFederation.componentName
    .assetModuleManager)⟩

/- Go on with what a call has made of the federation. -/
def proceed
    {α : Type}
    (s : FederationSession)
    (answer : Except AssetError α → FederationAnswer)
    (result : Except AssetError (α × AssetFederation)) :
    FederationAnswer × FederationSession :=
  match result with
  | .ok (a, f) => (answer (.ok a), { s with federation := f })
  | .error e => (answer (.error e), s)

/- Make one call while the files are so. -/
def step
    (s : FederationSession)
    (files : FileView)
    (request : FederationRequest) :
    FederationAnswer × FederationSession :=
  match request with
  | .register plan =>
      match s.federation.register plan.used.body with
      | .ok f =>
          (.registered (.ok ()),
            ⟨f, s.tree.addChild (.leaf plan.used.component)⟩)
      | .error e => (.registered (.error e), s)
  | .find moduleId id =>
      s.proceed .found (s.federation.find moduleId id)
  | .search moduleId criteria =>
      (.listed (s.federation.search moduleId criteria), s)
  | .refresh moduleId =>
      s.proceed .refreshed
        (s.federation.refresh files moduleId)
  | .refreshAll =>
      let (responses, f) := s.federation.refreshAll files
      (.refreshedAll responses, { s with federation := f })
  | .stats => (.stats s.federation.cacheStats, s)
  | .control address action =>
      match s.tree.callAt? (AssetFederation.hooks files) action
          address s.federation with
      | some o => (.controlled (some o.result),
          ⟨o.state, o.tree⟩)
      | none => (.controlled none, s)

/- The hooks that a call runs, one by one. -/
def runs
    (s : FederationSession)
    (files : FileView) :
    FederationRequest → List (HookRun Part)
  | .control address action =>
      match s.tree.callAt?
          (AssetFederation.hooks files).journaled action
          address (s.federation, []) with
      | some o => o.state.2
      | none => []
  | _ => []

/- What is kept of a call. -/
def turn
    (s : FederationSession)
    (files : FileView)
    (request : FederationRequest) : FederationTurn :=
  ⟨files, request, (s.step files request).1,
    s.runs files request⟩

/- Make calls one after the other, and list their turns. -/
def run
    (s : FederationSession)
    (calls : List (FileView × FederationRequest)) :
    List FederationTurn × FederationSession :=
  runAll (fun s call =>
    ([s.turn call.1 call.2], (s.step call.1 call.2).2)) s
    calls

end FederationSession

end DeviceHub
