import DeviceHub.Assets.Cache
import DeviceHub.Assets.Source
import DeviceHub.Lifecycle.Tree

/-
  Asset modules: a source under a name, with a cache if one
  is wanted.

  Key definitions include:
    * `RefreshResponse`
    * `AssetModule`
    * `AssetModule.find`
    * `AssetModule.search`
    * `AssetModule.refresh`
    * `AssetModule.loadSource`
    * `AssetModule.dropCache`
-/

namespace DeviceHub

------------------------------------------------------------
-- Refreshing
------------------------------------------------------------

/- How a refresh went. -/
inductive RefreshResult where
  | successful
  | failed
  deriving DecidableEq, Inhabited, Repr

namespace RefreshResult

/- The name of a result. -/
def name : RefreshResult → String
  | successful => "Successful"
  | failed => "Failed"

/- The JSON form. -/
def toJson
    (r : RefreshResult) : Json :=
  .text r.name

/- Read the JSON form. -/
def reader : Json.Reader RefreshResult :=
  .name ([successful, failed].map fun r => (r.name, r))

end RefreshResult

/- The answer of a module to a refresh. -/
structure RefreshResponse where
  moduleId : String
  result : RefreshResult
  message : String
  deriving DecidableEq, Inhabited, Repr

namespace RefreshResponse

/- The JSON form. -/
def toJson
    (r : RefreshResponse) : Json :=
  .record
    [("moduleId", .text r.moduleId),
      ("result", r.result.toJson),
      ("message", .text r.message)]

open Json in
/- Read the JSON form. -/
def reader : Reader RefreshResponse :=
  fun p d => do
    let m ← Members.of? ["moduleId", "result", "message"] p d
    let moduleId ← m.required "moduleId" .text
    let result ← m.required "result" RefreshResult.reader
    let message ← m.required "message" .text
    some ⟨moduleId, result, message⟩

end RefreshResponse

------------------------------------------------------------
-- Modules
------------------------------------------------------------

/- A source under a name; the cache exists once loaded. -/
structure AssetModule where
  id : String
  name : String
  type : AssetType
  source : AssetSource
  cacheEnabled : Bool
  cache : Option (Cache Asset)
  deriving Inhabited

namespace AssetModule

/- A module that has not been loaded. -/
def new
    (id name : String)
    (type : AssetType)
    (source : AssetSource)
    (cacheEnabled : Bool) : AssetModule :=
  ⟨id, name, type, source, cacheEnabled, none⟩

/- The name of the component. -/
def componentName
    (id : String) : String :=
  "asset-module:" ++ id

/- Begin a new cache, if one is wanted. -/
def renewCache
    (m : AssetModule) : AssetModule :=
  if m.cacheEnabled then
    { m with
      cache := some (.new s!"{m.name} ({m.type.name})") }
  else
    m

/- Read the source again and begin a new cache. -/
def reload
    (m : AssetModule)
    (files : FileView) : Except AssetError AssetModule :=
  (m.source.reload files).map fun source =>
    { m with source := source }.renewCache

/- The asset with an id, from the cache if it is there. -/
def find
    (m : AssetModule)
    (id : String) : Option Asset × AssetModule :=
  match m.cache with
  | none => (m.source.find? id, m)
  | some cache =>
      match cache.get id with
      | (some a, cache) => (some a, { m with cache := cache })
      | (none, cache) =>
          match m.source.find? id with
          | some a =>
              (some a, { m with cache := cache.put a.id a })
          | none => (none, { m with cache := cache })

/- The assets that criteria match, in the source's order. -/
def search
    (m : AssetModule)
    (criteria : String) : List Asset :=
  m.source.search (.parse criteria)

/- Reload and report; a failure leaves all as it was. -/
def refresh
    (m : AssetModule)
    (files : FileView) : RefreshResponse × AssetModule :=
  match m.reload files with
  | .ok m => (⟨m.id, .successful, "Refresh successful."⟩, m)
  | .error e => (⟨m.id, .failed, e.message⟩, m)

/- How the cache has been used, if there is one. -/
def cacheStats?
    (m : AssetModule) : Option CacheStats :=
  m.cache.map Cache.stats

/- Load the source. -/
def loadSource
    (m : AssetModule)
    (files : FileView) :
    Except LifecycleError Unit × AssetModule :=
  match m.reload files with
  | .ok m => (.ok (), m)
  | .error e =>
      (.error (.failed (componentName m.id) e.message), m)

/- Give up the cache. -/
def dropCache
    (m : AssetModule) :
    Except LifecycleError Unit × AssetModule :=
  (.ok (), { m with cache := none })

/- A description for diagnosis. -/
def describe
    (m : AssetModule)
    (status : Status) : String :=
  "AssetModule \x7b id: " ++ Text.quoted m.id ++
    ", name: " ++ Text.quoted m.name ++
    ", asset_type: " ++ m.type.word ++
    ", cache_enabled: " ++ toString m.cacheEnabled ++
    ", status: " ++ status.name ++ " \x7d"

end AssetModule

end DeviceHub
