import DeviceHub.Assets.Session
import DeviceHub.Hub.Equipment
import DeviceHub.Proofs.Dict
import DeviceHub.Proofs.Except
import DeviceHub.Proofs.Lifecycle.Calls

/-
  A module with a cache beside the same module without one.

  What the cache holds is always what the source would give.
  So look-ups find the same, reloads go the same way, and the
  hooks do not tell the two modules apart.

  Key definitions include:
    * `AssetModule.FindOf`
    * `AssetModule.Coherent`
    * `AssetModule.Twin`

  Main statements:
    * `AssetModule.find_cases`
    * `AssetModule.Twin.find`
    * `AssetModule.Twin.refresh`
    * `AssetModule.hooksAgree_twin`
-/

namespace DeviceHub

------------------------------------------------------------
-- Look-Ups
------------------------------------------------------------

/- An asset is found under its own id. -/
theorem AssetSource.id_of_find?
    {s : AssetSource}
    {id : String}
    {a : Asset}
    (hFind : s.find? id = some a) :
    a.id = id := by
  have hTest := List.find?_some hFind
  exact beq_iff_eq.1 hTest

namespace AssetModule

/- The hub's hooks for its modules are the modules' own. -/
theorem moduleHook_eq
    {κ : Type}
    {e : Equipment}
    {id : String}
    {m : AssetModule}
    (hModule : e.assets.module? id = .ok m)
    (c : Component κ)
    {hook : Hook}
    (hHook : hook = .start ∨ hook = .stop) :
    Equipment.moduleHook id hook e =
      ((hooks e.files c hook m).1,
        e.setModule (hooks e.files c hook m).2) := by
  unfold Equipment.moduleHook
  rcases hHook with rfl | rfl
  · simp only [hModule]
    rfl
  · simp only [hModule]
    rfl

/- The ways in which a look-up can go. -/
inductive FindOf
    (m : AssetModule)
    (id : String) : Option Asset × AssetModule → Prop where
  | uncached
      (hCache : m.cache = none) :
      FindOf m id (m.source.find? id, m)
  | hit
      {c : Cache Asset}
      {a : Asset}
      (hCache : m.cache = some c)
      (hEntry : c.entries.get? id = some a) :
      FindOf m id (some a, { m with
        cache := some
          ⟨c.name, c.entries, c.requests + 1, c.hits + 1⟩ })
  | filled
      {c : Cache Asset}
      {a : Asset}
      (hCache : m.cache = some c)
      (hEntry : c.entries.get? id = none)
      (hSource : m.source.find? id = some a) :
      FindOf m id (some a, { m with
        cache := some
          ⟨c.name, c.entries.insert id a, c.requests + 1,
            c.hits⟩ })
  | missed
      {c : Cache Asset}
      (hCache : m.cache = some c)
      (hEntry : c.entries.get? id = none)
      (hSource : m.source.find? id = none) :
      FindOf m id (none, { m with
        cache := some
          ⟨c.name, c.entries, c.requests + 1, c.hits⟩ })

theorem find_cases
    (m : AssetModule)
    (id : String) :
    FindOf m id (m.find id) := by
  unfold find
  cases hCache : m.cache with
  | none => exact .uncached hCache
  | some c =>
      cases hEntry : c.entries.get? id with
      | some a =>
          simp only [Cache.get, hEntry, Option.isSome_some,
            if_true]
          exact .hit hCache hEntry
      | none =>
          cases hSource : m.source.find? id with
          | some a =>
              simp only [Cache.get, Cache.put, hEntry,
                Option.isSome_none, Bool.false_eq_true,
                if_false, AssetSource.id_of_find? hSource]
              exact .filled hCache hEntry hSource
          | none =>
              simp only [Cache.get, hEntry, Option.isSome_none,
                Bool.false_eq_true, if_false]
              exact .missed hCache hEntry hSource

------------------------------------------------------------
-- Without the Cache
------------------------------------------------------------

/- The module without its cache. -/
def uncached
    (m : AssetModule) : AssetModule :=
  { m with cacheEnabled := false, cache := none }

/- The cache holds nothing but what the source would give. -/
def Coherent
    (m : AssetModule) : Prop :=
  ∀ c ∈ m.cache, ∀ id a, c.entries.get? id = some a →
    m.source.find? id = some a

/- A module with a cache, and the same without one. -/
structure Twin
    (m u : AssetModule) : Prop where
  enabled : m.cacheEnabled = true
  uncached : u = m.uncached
  coherent : m.Coherent

theorem Twin.id_eq
    {m u : AssetModule}
    (hTwin : m.Twin u) :
    u.id = m.id := by
  rw [hTwin.uncached]
  rfl

/- A new module holds nothing. -/
theorem twin_new
    (id name : String)
    (type : AssetType)
    (source : AssetSource) :
    (new id name type source true).Twin
      (new id name type source false) := by
  refine ⟨rfl, rfl, ?_⟩
  intro c hCache
  cases hCache

/- Another cache will do if the source would give the same. -/
theorem Twin.setCache
    {m u : AssetModule}
    (hTwin : m.Twin u)
    {c : Cache Asset}
    (hEntries : ∀ id a, c.entries.get? id = some a →
      m.source.find? id = some a) :
    { m with cache := some c }.Twin u := by
  refine ⟨hTwin.enabled, hTwin.uncached, ?_⟩
  intro d hCache id a hEntry
  cases hCache
  exact hEntries id a hEntry

/- A look-up finds what the source would give. -/
theorem Twin.find
    {m u : AssetModule}
    (hTwin : m.Twin u)
    (id : String) :
    (m.find id).1 = (u.find id).1 ∧
      (m.find id).2.Twin (u.find id).2 := by
  have hCoherent := hTwin.coherent
  have hPlain : u.find id = (m.source.find? id, u) := by
    rw [hTwin.uncached]
    rfl
  rw [hPlain]
  have hFind := m.find_cases id
  generalize m.find id = r at hFind ⊢
  cases hFind with
  | uncached hCache => exact ⟨rfl, hTwin⟩
  | @hit c a hCache hEntry =>
      have hEntries := hCoherent c hCache
      exact ⟨(hEntries id a hEntry).symm,
        hTwin.setCache hEntries⟩
  | @filled c a hCache hEntry hSource =>
      refine ⟨hSource.symm, hTwin.setCache ?_⟩
      intro key b hEntry'
      rw [KeyMap.get?_insert] at hEntry'
      by_cases hKey : key = id
      · rw [if_pos hKey] at hEntry'
        cases hEntry'
        rw [hKey]
        exact hSource
      · rw [if_neg hKey] at hEntry'
        exact hCoherent c hCache key b hEntry'
  | @missed c hCache hEntry hSource =>
      exact ⟨hSource.symm,
        hTwin.setCache (hCoherent c hCache)⟩

------------------------------------------------------------
-- Reloads
------------------------------------------------------------

/- A reload begins a new cache, if one is wanted. -/
theorem cache_of_reload
    {m m' : AssetModule}
    {files : FileView}
    (hEnabled : m.cacheEnabled = true)
    (hReload : m.reload files = .ok m') :
    ∃ name, m'.cache = some (.new name) := by
  rcases map_eq_ok_iff.1 hReload with ⟨source, _, rfl⟩
  unfold renewCache
  simp only [hEnabled, if_true]
  exact ⟨_, rfl⟩

/- Loading succeeds by a reload, or it changes nothing. -/
theorem reload_of_loadSource
    {m m' : AssetModule}
    {files : FileView}
    (hLoad : m.loadSource files = (.ok (), m')) :
    m.reload files = .ok m' := by
  unfold loadSource at hLoad
  split at hLoad
  · rename_i hReload
    cases hLoad
    exact hReload
  · cases hLoad

theorem eq_of_loadSource_error
    {m m' : AssetModule}
    {files : FileView}
    {e : LifecycleError}
    (hLoad : m.loadSource files = (.error e, m')) :
    m' = m := by
  unfold loadSource at hLoad
  split at hLoad
  · cases hLoad
  · cases hLoad
    rfl

/- Both modules are reloaded, or neither. -/
theorem Twin.reload
    {m u : AssetModule}
    (hTwin : m.Twin u)
    (files : FileView) :
    (∃ e, m.reload files = .error e ∧
      u.reload files = .error e) ∨
    ∃ m' u', m.reload files = .ok m' ∧
      u.reload files = .ok u' ∧ m'.Twin u' := by
  have hEnabled := hTwin.enabled
  rw [hTwin.uncached]
  unfold AssetModule.reload AssetModule.uncached
  cases hSource : m.source.reload files with
  | error e => exact .inl ⟨e, rfl, rfl⟩
  | ok source =>
      refine .inr ⟨_, _, rfl, rfl, ?_⟩
      simp only [renewCache, hEnabled, if_true,
        Bool.false_eq_true, if_false]
      refine ⟨rfl, rfl, ?_⟩
      intro c hCache id a hEntry
      cases hCache
      cases hEntry

theorem Twin.refresh
    {m u : AssetModule}
    (hTwin : m.Twin u)
    (files : FileView) :
    (m.refresh files).1 = (u.refresh files).1 ∧
      (m.refresh files).2.Twin (u.refresh files).2 := by
  unfold AssetModule.refresh
  rcases hTwin.reload files with
    ⟨e, hm, hu⟩ | ⟨m', u', hm, hu, hTwin'⟩
  · simp only [hm, hu, hTwin.id_eq, true_and]
    exact hTwin
  · simp only [hm, hu, hTwin'.id_eq, true_and]
    exact hTwin'

theorem Twin.loadSource
    {m u : AssetModule}
    (hTwin : m.Twin u)
    (files : FileView) :
    (m.loadSource files).1 = (u.loadSource files).1 ∧
      (m.loadSource files).2.Twin (u.loadSource files).2 := by
  unfold AssetModule.loadSource
  rcases hTwin.reload files with
    ⟨e, hm, hu⟩ | ⟨m', u', hm, hu, hTwin'⟩
  · simp only [hm, hu, hTwin.id_eq, true_and]
    exact hTwin
  · simp only [hm, hu, true_and]
    exact hTwin'

theorem Twin.dropCache
    {m u : AssetModule}
    (hTwin : m.Twin u) :
    (m.dropCache).1 = (u.dropCache).1 ∧
      (m.dropCache).2.Twin (u.dropCache).2 := by
  rw [hTwin.uncached]
  refine ⟨rfl, hTwin.enabled, rfl, ?_⟩
  intro c hCache
  cases hCache

/- The hooks do not tell the two modules apart. -/
theorem hooksAgree_twin
    {κ : Type}
    (files : FileView) :
    Tree.HooksAgree (fun _ : κ => True) Twin (hooks files)
      (hooks files) := by
  intro c hook m u _ hTwin
  cases hook with
  | start => exact hTwin.loadSource files
  | stop => exact hTwin.dropCache
  | pause | resume => exact ⟨rfl, hTwin⟩

end AssetModule

end DeviceHub
