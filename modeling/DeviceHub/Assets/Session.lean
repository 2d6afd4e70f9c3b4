import DeviceHub.Assets.Module
import DeviceHub.Run

/-
  An asset module in use: look-ups, searches, refreshes and
  lifecycle calls, one after the other, while its file may
  change from call to call.

  Key definitions include:
    * `AssetModule.hooks`
    * `ModuleRequest`
    * `ModuleAnswer`
    * `ModuleSession`
    * `ModuleSession.step`
    * `ModuleSession.run`
    * `ModuleSession.loads`
-/

namespace DeviceHub

/- What a module does at its turns, while files are so. -/
def AssetModule.hooks
    {κ : Type}
    (files : FileView) : Hooks κ AssetModule :=
  fun _ hook m =>
    match hook with
    | .start => m.loadSource files
    | .stop => m.dropCache
    | _ => (.ok (), m)

------------------------------------------------------------
-- Requests and Answers
------------------------------------------------------------

/- A call of a module. -/
inductive ModuleRequest where
  | find (id : String)
  | search (criteria : String)
  | refresh
  | control (action : LifecycleAction)
  | stats

/- What a module answers to a call. -/
inductive ModuleAnswer where
  | found (asset : Option Asset)
  | listed (assets : List Asset)
  | refreshed (response : RefreshResponse)
  | controlled (result : Except LifecycleError Status)
  | stats (stats : Option CacheStats)

/- A call with its answer. -/
structure ModuleTurn where
  request : ModuleRequest
  answer : ModuleAnswer

namespace ModuleTurn

/- Whether an asset was asked for by its id. -/
def isLookUp
    (t : ModuleTurn) : Bool :=
  match t.request with
  | .find _ => true
  | _ => false

/- The id under which an asset was asked for and found. -/
def foundId?
    (t : ModuleTurn) : Option String :=
  match t.request, t.answer with
  | .find id, .found (some _) => some id
  | _, _ => none

/- The ids found in several turns, each as often as it was. -/
def foundIds
    (turns : List ModuleTurn) : List String :=
  turns.filterMap foundId?

/- Whether the source was reloaded: a refresh or a start. -/
def isReload
    (t : ModuleTurn) : Bool :=
  match t.request, t.answer with
  | .refresh, .refreshed r => r.result = .successful
  | .control .start, .controlled (.ok _) => true
  | _, _ => false

/- Whether the module was stopped. -/
def isStop
    (t : ModuleTurn) : Bool :=
  match t.request, t.answer with
  | .control .stop, .controlled (.ok _) => true
  | _, _ => false

/- The array that a turn has read from a file. -/
def load?
    (t : ModuleTurn)
    (files : FileView)
    (path : String) : Option (List Asset) :=
  if t.isReload then
    (AssetSource.load files path).toOption
  else
    none

end ModuleTurn

------------------------------------------------------------
-- Sessions
------------------------------------------------------------

/- A module with the component that stands for it. -/
structure ModuleSession (κ : Type) where
  body : AssetModule
  component : Component κ

namespace ModuleSession

variable {κ : Type}

/- A module as it is made. -/
def new
    (label : κ)
    (id name : String)
    (type : AssetType)
    (source : AssetSource)
    (cacheEnabled : Bool) : ModuleSession κ :=
  ⟨.new id name type source cacheEnabled,
    .new label (AssetModule.componentName id) .assetModule⟩

/- Make one call while the files are so. -/
def step
    (s : ModuleSession κ)
    (files : FileView)
    (request : ModuleRequest) :
    ModuleAnswer × ModuleSession κ :=
  match request with
  | .find id =>
      let (asset, body) := s.body.find id
      (.found asset, { s with body := body })
  | .search criteria => (.listed (s.body.search criteria), s)
  | .refresh =>
      let (response, body) := s.body.refresh files
      (.refreshed response, { s with body := body })
  | .control action =>
      let o := Tree.call (AssetModule.hooks files) action
        (.leaf s.component) s.body
      (.controlled o.result, ⟨o.state, o.tree.self⟩)
  | .stats => (.stats s.body.cacheStats?, s)

/- Make calls one after the other, and list their turns. -/
def run
    (s : ModuleSession κ)
    (calls : List (FileView × ModuleRequest)) :
    List ModuleTurn × ModuleSession κ :=
  runAll (fun s call =>
    ([⟨call.2, (s.step call.1 call.2).1⟩],
      (s.step call.1 call.2).2)) s calls

/- The arrays that calls read from a file, one by one. -/
def loads
    (s : ModuleSession κ)
    (path : String)
    (calls : List (FileView × ModuleRequest)) :
    List (List Asset) :=
  (calls.zip (s.run calls).1).filterMap fun x =>
    x.2.load? x.1.1 path

end ModuleSession

end DeviceHub
