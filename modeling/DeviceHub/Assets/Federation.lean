import DeviceHub.Assets.Module

/-
  Many asset modules under one roof, each under its own id.

  Key definitions include:
    * `AssetFederation`
    * `AssetFederation.register`
    * `AssetFederation.find`
    * `AssetFederation.search`
    * `AssetFederation.refreshAll`
-/

namespace DeviceHub

/- Asset modules in the order of their registration. -/
structure AssetFederation where
  modules : List AssetModule
  deriving Inhabited

namespace AssetFederation

/- No modules. -/
def empty : AssetFederation :=
  ⟨[]⟩

/- The name of the component. -/
def componentName : String :=
  "asset-modules"

/- The ids in the order of registration. -/
def moduleIds
    (f : AssetFederation) : List String :=
  f.modules.map (·.id)

/- The module with an id. -/
def module?
    (f : AssetFederation)
    (id : String) : Except AssetError AssetModule :=
  match f.modules.find? (·.id == id) with
  | some m => .ok m
  | none => .error (.unknownModule id)

/- Register a module under an id not taken yet. -/
def register
    (f : AssetFederation)
    (m : AssetModule) : Except AssetError AssetFederation :=
  if f.moduleIds.contains m.id then
    .error (.duplicateModule m.id)
  else
    .ok ⟨f.modules ++ [m]⟩

/- Put a module in place of the one with its id. -/
def replace
    (f : AssetFederation)
    (m : AssetModule) : AssetFederation :=
  ⟨f.modules.map fun n => if n.id == m.id then m else n⟩

/- The asset with an id in a module. -/
def find
    (f : AssetFederation)
    (moduleId id : String) :
    Except AssetError (Option Asset × AssetFederation) :=
  (f.module? moduleId).map fun m =>
    let (found, m) := m.find id
    (found, f.replace m)

/- The assets of a module that match, in natural order. -/
def search
    (f : AssetFederation)
    (moduleId criteria : String) :
    Except AssetError (List Asset) :=
  (f.module? moduleId).map fun m =>
    Asset.naturalSort (m.search criteria)

/- Refresh one module. -/
def refresh
    (f : AssetFederation)
    (files : FileView)
    (moduleId : String) :
    Except AssetError (RefreshResponse × AssetFederation) :=
  (f.module? moduleId).map fun m =>
    let (response, m) := m.refresh files
    (response, f.replace m)

/- Refresh every module; each answers for itself. -/
def refreshAll
    (f : AssetFederation)
    (files : FileView) :
    List RefreshResponse × AssetFederation :=
  let answers := f.modules.map fun m => m.refresh files
  (answers.map (·.1), ⟨answers.map (·.2)⟩)

/- How the caches have been used, by module id. -/
def cacheStats
    (f : AssetFederation) : List (String × CacheStats) :=
  f.modules.filterMap fun m =>
    m.cacheStats?.map fun stats => (m.id, stats)

/- A description for diagnosis. -/
def describe
    (f : AssetFederation)
    (status : Status) : String :=
  "AssetModuleManager \x7b modules: " ++
    Text.quotedList f.moduleIds ++ ", status: " ++
    status.name ++ " \x7d"

end AssetFederation

end DeviceHub
