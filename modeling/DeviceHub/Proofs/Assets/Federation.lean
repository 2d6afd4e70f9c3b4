import DeviceHub.Assets.Federation
import DeviceHub.Proofs.Assets.Refresh
import Mathlib.Data.List.Nodup

/-
  Modules with different ids under one roof: each of them is
  refreshed as it would be alone.

  Key definitions include:
    * `AssetFederation.Holds`

  Main statements:
    * `AssetFederation.modules_replace`
    * `AssetFederation.register_eq_ok_iff`
    * `AssetFederation.refreshAll_isolated`
    * `AssetFederation.Holds.register`
    * `AssetFederation.Holds.replace`
-/

namespace DeviceHub

namespace AssetFederation

variable {f f' : AssetFederation}
variable {m m' n : AssetModule}
variable {id : String}

------------------------------------------------------------
-- Finding and Replacing
------------------------------------------------------------

/- A module is found under its own id. -/
theorem mem_of_module?_ok
    (hModule : f.module? id = .ok m) :
    m ∈ f.modules ∧ m.id = id := by
  unfold module? at hModule
  split at hModule
  · rename_i hFind
    cases hModule
    have hTest := List.find?_some hFind
    exact ⟨List.mem_of_find?_eq_some hFind,
      beq_iff_eq.1 hTest⟩
  · cases hModule

theorem ne_of_module?_error
    {e : AssetError}
    (hModule : f.module? id = .error e) :
    ∀ m ∈ f.modules, m.id ≠ id := by
  unfold module? at hModule
  split at hModule
  · cases hModule
  · rename_i hNone
    intro m hMem hId
    exact List.find?_eq_none.1 hNone m hMem
      (beq_iff_eq.2 hId)

/- Modules with one id are the same. -/
theorem eq_of_id_eq
    (hIds : f.moduleIds.Nodup)
    (hm : m ∈ f.modules)
    (hn : n ∈ f.modules)
    (hId : n.id = m.id) :
    n = m :=
  List.inj_on_of_nodup_map hIds hn hm hId

theorem module?_of_mem
    (hIds : f.moduleIds.Nodup)
    (hMem : m ∈ f.modules) :
    f.module? m.id = .ok m := by
  cases hModule : f.module? m.id with
  | error e =>
      exact absurd rfl (ne_of_module?_error hModule m hMem)
  | ok n =>
      rcases mem_of_module?_ok hModule with ⟨hn, hId⟩
      rw [eq_of_id_eq hIds hMem hn hId]

@[simp] theorem moduleIds_replace
    (f : AssetFederation)
    (m : AssetModule) :
    (f.replace m).moduleIds = f.moduleIds := by
  unfold moduleIds replace
  rw [List.map_map]
  refine List.map_congr_left fun n _ => ?_
  dsimp only [Function.comp_apply]
  split
  · rename_i hBeq
    exact (beq_iff_eq.1 hBeq).symm
  · rfl

theorem mem_replace
    (hMem : n ∈ (f.replace m).modules) :
    n = m ∨ n ∈ f.modules ∧ n.id ≠ m.id := by
  rcases List.mem_map.1 hMem with ⟨k, hk, rfl⟩
  by_cases hId : k.id = m.id
  · rw [if_pos (beq_iff_eq.2 hId)]
    exact .inl rfl
  · rw [if_neg fun hBeq => hId (beq_iff_eq.1 hBeq)]
    exact .inr ⟨hk, hId⟩

/- Only the module with the id gives way. -/
theorem modules_replace
    (hIds : f.moduleIds.Nodup)
    {i : Nat}
    (hAt : f.modules[i]? = some m)
    (hId : m'.id = m.id) :
    f.replace m' = ⟨f.modules.set i m'⟩ := by
  have hMem : m ∈ f.modules := List.mem_of_getElem? hAt
  refine congrArg AssetFederation.mk
    (List.ext_getElem? fun j => ?_)
  rw [List.getElem?_map, List.getElem?_set]
  by_cases hPlace : i = j
  · subst hPlace
    rw [hAt, if_pos rfl,
      if_pos (List.getElem?_eq_some_iff.1 hAt).1]
    simp [hId]
  · rw [if_neg hPlace]
    cases hOther : f.modules[j]? with
    | none => rfl
    | some n =>
        have hn : n.id ≠ m'.id := by
          intro hSame
          have hAt' : f.moduleIds[i]? = f.moduleIds[j]? := by
            unfold moduleIds
            rw [List.getElem?_map, List.getElem?_map, hAt,
              hOther, Option.map_some, Option.map_some,
              hSame, hId]
          have hi : i < f.moduleIds.length := by
            unfold moduleIds
            rw [List.length_map]
            exact (List.getElem?_eq_some_iff.1 hAt).1
          exact hPlace
            ((List.getElem?_inj hi hIds).1 hAt')
        simp [hn]

------------------------------------------------------------
-- Registering
------------------------------------------------------------

/- A module is added at the end, unless its id is taken. -/
theorem register_eq_ok_iff :
    f.register m = .ok f' ↔
      m.id ∉ f.moduleIds ∧ f' = ⟨f.modules ++ [m]⟩ := by
  unfold register
  split
  · rename_i hTaken
    refine iff_of_false nofun fun hFree => ?_
    exact hFree.1 (List.contains_iff_mem.1 hTaken)
  · rename_i hFree
    rw [Except.ok.injEq]
    constructor
    · rintro rfl
      exact ⟨fun hMem =>
        hFree (List.contains_iff_mem.2 hMem), rfl⟩
    · rintro ⟨-, rfl⟩
      rfl

theorem register_of_mem
    (hTaken : m.id ∈ f.moduleIds) :
    f.register m = .error (.duplicateModule m.id) := by
  unfold register
  rw [if_pos (List.contains_iff_mem.2 hTaken)]

theorem nodup_register
    (hIds : f.moduleIds.Nodup)
    (hRegister : f.register m = .ok f') :
    f'.moduleIds.Nodup := by
  rcases register_eq_ok_iff.1 hRegister with ⟨hFree, rfl⟩
  unfold moduleIds at *
  rw [List.map_append]
  refine List.Nodup.append hIds (List.nodup_singleton _) ?_
  intro id hMem hNew
  rw [List.mem_singleton.1 hNew] at hMem
  exact hFree hMem

------------------------------------------------------------
-- Refreshing
------------------------------------------------------------

/- All modules are refreshed, and each reports for itself. -/
theorem refreshAll_eq
    (f : AssetFederation)
    (files : FileView) :
    f.refreshAll files =
      (f.modules.map fun m => (m.refresh files).1,
        ⟨f.modules.map fun m => (m.refresh files).2⟩) := by
  unfold refreshAll
  simp only [List.map_map]
  rfl

@[simp] theorem moduleIds_refreshAll
    (f : AssetFederation)
    (files : FileView) :
    (f.refreshAll files).2.moduleIds = f.moduleIds := by
  rw [refreshAll_eq]
  unfold moduleIds
  simp

/- There is one answer for each module, in order. -/
theorem responses_refreshAll
    (f : AssetFederation)
    (files : FileView) :
    (f.refreshAll files).1.map (·.moduleId) =
      f.moduleIds := by
  rw [refreshAll_eq]
  unfold moduleIds
  simp

theorem mem_refreshAll
    {files : FileView} :
    n ∈ (f.refreshAll files).2.modules ↔
      ∃ m ∈ f.modules, (m.refresh files).2 = n := by
  rw [refreshAll_eq, List.mem_map]

/- What is reported of a module is its own refresh. -/
theorem exists_response_iff
    (hIds : f.moduleIds.Nodup)
    (hMem : m ∈ f.modules)
    {files : FileView}
    {result : RefreshResult} :
    (∃ r ∈ (f.refreshAll files).1, r.moduleId = m.id ∧
        r.result = result) ↔
      (m.refresh files).1.result = result := by
  rw [refreshAll_eq]
  constructor
  · rintro ⟨r, hr, hId, hResult⟩
    rcases List.mem_map.1 hr with ⟨n, hn, rfl⟩
    rw [n.moduleId_refresh] at hId
    rw [eq_of_id_eq hIds hMem hn hId] at hResult
    exact hResult
  · intro hResult
    exact ⟨_, List.mem_map_of_mem hMem,
      m.moduleId_refresh files, hResult⟩

/-
  The answer for a module, and what it is afterwards, are as
  if this module alone had been refreshed.
-/
theorem refreshAll_isolated
    (hIds : f.moduleIds.Nodup)
    {i : Nat}
    (hAt : f.modules[i]? = some m)
    (files : FileView) :
    ∃ r m', (f.refreshAll files).1[i]? = some r ∧
      (f.refreshAll files).2.modules[i]? = some m' ∧
      f.refresh files m.id = .ok (r, ⟨f.modules.set i m'⟩) ∧
      m.Refreshed files r m' := by
  refine ⟨(m.refresh files).1, (m.refresh files).2, ?_, ?_,
    ?_, m.refreshed_refresh files⟩
  · rw [refreshAll_eq, List.getElem?_map, hAt]
    rfl
  · rw [refreshAll_eq, List.getElem?_map, hAt]
    rfl
  · unfold refresh
    rw [module?_of_mem hIds (List.mem_of_getElem? hAt),
      ← modules_replace hIds hAt (m.id_refresh files)]
    rfl

------------------------------------------------------------
-- Contents
------------------------------------------------------------

/- No id is taken twice, and files hold what they should. -/
structure Holds
    (f : AssetFederation)
    (held : String → String → List Asset) : Prop where
  ids : f.moduleIds.Nodup
  sources : ∀ m ∈ f.modules, m.source.Holds (held m.id)

namespace Holds

variable {held held' : String → String → List Asset}

theorem empty :
    AssetFederation.empty.Holds held :=
  ⟨List.nodup_nil, fun _ hMem => by cases hMem⟩

theorem congr
    (hHolds : f.Holds held)
    (hSame : ∀ m ∈ f.modules, held' m.id = held m.id) :
    f.Holds held' := by
  refine ⟨hHolds.ids, fun m hMem => ?_⟩
  rw [hSame m hMem]
  exact hHolds.sources m hMem

theorem register
    (hHolds : f.Holds held)
    (hRegister : f.register m = .ok f')
    (hNew : m.source.Holds (held' m.id))
    (hOld : ∀ id, id ≠ m.id → held' id = held id) :
    f'.Holds held' := by
  refine ⟨nodup_register hHolds.ids hRegister, ?_⟩
  rcases register_eq_ok_iff.1 hRegister with ⟨hFree, rfl⟩
  intro n hMem
  rcases List.mem_append.1 hMem with hn | hn
  · have hOther : n.id ≠ m.id := by
      intro hId
      exact hFree (List.mem_map.2 ⟨n, hn, hId⟩)
    rw [hOld n.id hOther]
    exact hHolds.sources n hn
  · rw [List.mem_singleton.1 hn]
    exact hNew

theorem replace
    (hHolds : f.Holds held)
    (hNew : m.source.Holds (held' m.id))
    (hOld : ∀ id, id ≠ m.id → held' id = held id) :
    (f.replace m).Holds held' := by
  constructor
  · rw [moduleIds_replace]
    exact hHolds.ids
  · intro n hMem
    rcases mem_replace hMem with rfl | ⟨hn, hOther⟩
    · exact hNew
    · rw [hOld n.id hOther]
      exact hHolds.sources n hn

end Holds

end AssetFederation

end DeviceHub
