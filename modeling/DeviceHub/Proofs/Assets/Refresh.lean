import DeviceHub.Proofs.Assets.Session
import DeviceHub.Proofs.Assets.Source

/-
  How a module is refreshed, and what its source holds after
  any calls.

  A refresh either reads what the file lists and begins a new
  cache, or leaves the module as it is.  Between refreshes and
  starts that succeed the source does not change.

  Key definitions include:
    * `AssetModule.Refreshed`

  Main statements:
    * `AssetModule.refresh_cases`
    * `AssetModule.refreshed_refresh`
    * `ModuleSession.holds_step`
    * `ModuleSession.holds_run`
-/

------------------------------------------------------------
-- The Last of Several
------------------------------------------------------------

namespace DeviceHub

/- What came before counts only if nothing comes last. -/
theorem getLast?_filterMap_concat
    {α β : Type}
    (f : α → Option β)
    (before : List α)
    (a : α)
    (b : β) :
    ((before ++ [a]).filterMap f).getLast?.getD b =
      (f a).getD ((before.filterMap f).getLast?.getD b) := by
  rw [List.filterMap_append]
  cases hLast : f a with
  | none => simp [hLast]
  | some c => simp [hLast]

/- What is true of all is true of the last, if there is one. -/
theorem getLast?_getD_of_forall
    {α : Type}
    {P : α → Prop}
    {items : List α}
    {a : α}
    (hAll : ∀ b ∈ items, P b)
    (hNone : P a) :
    P (items.getLast?.getD a) := by
  cases hLast : items.getLast? with
  | none => exact hNone
  | some b => exact hAll b (List.mem_of_getLast? hLast)

end DeviceHub

------------------------------------------------------------
-- Modules
------------------------------------------------------------

namespace DeviceHub

namespace AssetModule

/- A reload reads the source and changes no id. -/
theorem source_of_reload
    {m m' : AssetModule}
    {files : FileView}
    (hReload : m.reload files = .ok m') :
    m.source.reload files = .ok m'.source ∧ m'.id = m.id := by
  rcases map_eq_ok_iff.1 hReload with ⟨source, hSource, rfl⟩
  rw [hSource]
  unfold renewCache
  split <;> exact ⟨rfl, rfl⟩

/- A module with a file begins anew with what is loaded. -/
theorem reload_of_file
    {m : AssetModule}
    {path : String}
    {before : List Asset}
    (hFile : m.source = .file path before)
    {files : FileView} :
    m.reload files = (AssetSource.load files path).map
      fun assets =>
        { m with source := .file path assets }.renewCache := by
  unfold reload
  rw [hFile, AssetSource.reload]
  cases AssetSource.load files path with
  | error e => rfl
  | ok assets => rfl

/- A look-up does not touch the source. -/
theorem source_find
    (m : AssetModule)
    (id : String) :
    (m.find id).2.source = m.source ∧
      (m.find id).2.id = m.id := by
  have hFind := m.find_cases id
  generalize m.find id = r at hFind ⊢
  cases hFind <;> exact ⟨rfl, rfl⟩

/- The two ways in which a refresh can go. -/
theorem refresh_cases
    (m : AssetModule)
    (files : FileView) :
    (∃ m', m.reload files = .ok m' ∧ m.refresh files =
      (⟨m.id, .successful, "Refresh successful."⟩, m')) ∨
    ∃ e, m.reload files = .error e ∧
      m.refresh files = (⟨m.id, .failed, e.message⟩, m) := by
  unfold refresh
  cases hReload : m.reload files with
  | error e => exact .inr ⟨e, rfl, rfl⟩
  | ok m' =>
      refine .inl ⟨m', rfl, ?_⟩
      rw [← (source_of_reload hReload).2]

@[simp] theorem moduleId_refresh
    (m : AssetModule)
    (files : FileView) :
    (m.refresh files).1.moduleId = m.id := by
  rcases m.refresh_cases files with
    ⟨m', _, hRefresh⟩ | ⟨e, _, hRefresh⟩
  · rw [hRefresh]
  · rw [hRefresh]

@[simp] theorem id_refresh
    (m : AssetModule)
    (files : FileView) :
    (m.refresh files).2.id = m.id := by
  rcases m.refresh_cases files with
    ⟨m', hReload, hRefresh⟩ | ⟨e, _, hRefresh⟩
  · rw [hRefresh]
    exact (source_of_reload hReload).2
  · rw [hRefresh]

/-
  What a refresh answers and makes of a module: if it fails,
  nothing; of a module with a file, one with the assets that
  the file lists and, if it is to have one, a new cache.
-/
structure Refreshed
    (m : AssetModule)
    (files : FileView)
    (r : RefreshResponse)
    (m' : AssetModule) : Prop where
  failed : r.result = .failed → m' = m
  successful_iff : ∀ path before,
    m.source = .file path before →
    (r.result = .successful ↔
      ∃ assets, AssetSource.Lists files path assets)
  successful : ∀ path before assets,
    m.source = .file path before →
    AssetSource.Lists files path assets →
    ∃ name, m' = { m with
      source := .file path assets
      cache :=
        if m.cacheEnabled then some (.new name)
        else m.cache }

theorem refreshed_refresh
    (m : AssetModule)
    (files : FileView) :
    m.Refreshed files (m.refresh files).1
      (m.refresh files).2 := by
  rcases m.refresh_cases files with
    ⟨m', hReload, hRefresh⟩ | ⟨e, hReload, hRefresh⟩
  · rw [hRefresh]
    refine ⟨nofun, fun path before hFile => ?_,
      fun path before assets hFile hLists => ?_⟩
    · rw [reload_of_file hFile] at hReload
      rcases map_eq_ok_iff.1 hReload with ⟨assets, hLoad, -⟩
      exact iff_of_true rfl
        ⟨assets, AssetSource.load_eq_ok_iff.1 hLoad⟩
    · rw [reload_of_file hFile,
        AssetSource.load_eq_ok_iff.2 hLists] at hReload
      cases hReload
      refine ⟨s!"{m.name} ({m.type.name})", ?_⟩
      unfold renewCache
      cases hEnabled : m.cacheEnabled <;> rfl
  · rw [hRefresh]
    have hNone : ∀ path before assets,
        m.source = .file path before →
        ¬ AssetSource.Lists files path assets := by
      intro path before assets hFile hLists
      rw [reload_of_file hFile,
        AssetSource.load_eq_ok_iff.2 hLists] at hReload
      cases hReload
    refine ⟨fun _ => rfl, fun path before hFile => ?_,
      fun path before assets hFile hLists => ?_⟩
    · refine iff_of_false nofun ?_
      rintro ⟨assets, hLists⟩
      exact hNone path before assets hFile hLists
    · exact absurd hLists (hNone path before assets hFile)

/- A hook changes the source by a reload, or not at all. -/
theorem source_hooks
    {κ : Type}
    (files : FileView)
    (c : Component κ)
    (hook : Hook)
    (m : AssetModule) :
    (hooks files c hook m).2.id = m.id ∧
      ((hook = .start ∧ (hooks files c hook m).1 = .ok () ∧
          m.source.reload files =
            .ok (hooks files c hook m).2.source) ∨
        (¬ (hook = .start ∧
            (hooks files c hook m).1 = .ok ()) ∧
          (hooks files c hook m).2.source = m.source)) := by
  cases hook with
  | start =>
      change (m.loadSource files).2.id = m.id ∧
        ((_ ∧ (m.loadSource files).1 = .ok () ∧
            m.source.reload files =
              .ok (m.loadSource files).2.source) ∨
          (¬ (_ ∧ (m.loadSource files).1 = .ok ()) ∧
            (m.loadSource files).2.source = m.source))
      unfold loadSource
      cases hReload : m.reload files with
      | error e =>
          exact ⟨rfl, .inr ⟨fun h => (nomatch h.2), rfl⟩⟩
      | ok m' =>
          rcases source_of_reload hReload with ⟨hSource, hId⟩
          exact ⟨hId, .inl ⟨rfl, rfl, hSource⟩⟩
  | stop | pause | resume =>
      exact ⟨rfl, .inr ⟨fun h => (nomatch h.1), rfl⟩⟩

end AssetModule

------------------------------------------------------------
-- Modules in Use
------------------------------------------------------------

namespace ModuleSession

variable {κ : Type}
variable {s : ModuleSession κ}

/- A call changes the source by a reload, or not at all. -/
theorem source_step
    (hSimple : s.component.IsSimple)
    (files : FileView)
    (request : ModuleRequest) :
    (s.step files request).2.body.id = s.body.id ∧
      ((ModuleTurn.isReload
            ⟨request, (s.step files request).1⟩ = true ∧
          s.body.source.reload files =
            .ok (s.step files request).2.body.source) ∨
        (ModuleTurn.isReload
            ⟨request, (s.step files request).1⟩ = false ∧
          (s.step files request).2.body.source =
            s.body.source)) := by
  cases request with
  | find id =>
      rcases s.body.source_find id with ⟨hSource, hId⟩
      exact ⟨hId, .inr ⟨rfl, hSource⟩⟩
  | search | stats => exact ⟨rfl, .inr ⟨rfl, rfl⟩⟩
  | refresh =>
      simp only [step]
      rcases s.body.refresh_cases files with
        ⟨m', hReload, hRefresh⟩ | ⟨e, _, hRefresh⟩
      · rw [hRefresh]
        rcases AssetModule.source_of_reload hReload with
          ⟨hSource, hId⟩
        exact ⟨hId, .inl ⟨rfl, hSource⟩⟩
      · rw [hRefresh]
        exact ⟨rfl, .inr ⟨rfl, rfl⟩⟩
  | control action =>
      have hControl := controlOf_step hSimple files action
      generalize s.step files (.control action) = r
        at hControl ⊢
      cases hControl with
      | reloaded hReload =>
          rcases AssetModule.source_of_reload hReload with
            ⟨hSource, hId⟩
          exact ⟨hId, .inl ⟨rfl, hSource⟩⟩
      | dropped => exact ⟨rfl, .inr ⟨rfl, rfl⟩⟩
      | @kept _ result _ hResult =>
          refine ⟨rfl, .inr ⟨?_, rfl⟩⟩
          cases result with
          | error e => cases action <;> rfl
          | ok status =>
              rcases hResult status rfl with rfl | rfl <;> rfl

/- A source has what its last load has read. -/
theorem holds_step
    (hSimple : s.component.IsSimple)
    {held : String → List Asset}
    (hHolds : s.body.source.Holds held)
    (files : FileView)
    (request : ModuleRequest) :
    (s.step files request).2.body.source.Holds fun path =>
      (ModuleTurn.load? ⟨request, (s.step files request).1⟩
        files path).getD (held path) := by
  unfold ModuleTurn.load?
  rcases (source_step hSimple files request).2 with
    ⟨hTurn, hReload⟩ | ⟨hTurn, hSame⟩
  · refine AssetSource.holds_of_reload hReload ?_
    intro path assets hLoad
    simp only [hTurn, if_true, hLoad]
    rfl
  · rw [hSame]
    simp only [hTurn, Bool.false_eq_true, if_false]
    exact hHolds

theorem holds_run
    (hSimple : s.component.IsSimple)
    {held : String → List Asset}
    (hHolds : s.body.source.Holds held)
    (calls : List (FileView × ModuleRequest)) :
    (s.run calls).2.body.id = s.body.id ∧
      (s.run calls).2.body.source.Holds fun path =>
        (s.loads path calls).getLast?.getD (held path) := by
  -- Turns and calls are as many, so that they can be paired.
  refine (runAll_induct
    (P := fun taken (turns : List ModuleTurn)
        (u : ModuleSession κ) =>
      u.component.IsSimple ∧ taken.length = turns.length ∧
        u.body.id = s.body.id ∧
        u.body.source.Holds fun path =>
          ((taken.zip turns).filterMap
            fun x : (FileView × ModuleRequest) × ModuleTurn =>
              x.2.load? x.1.1 path).getLast?.getD (held path))
    ?_ ⟨hSimple, rfl, rfl, hHolds⟩ calls).2.2
  rintro taken turns u ⟨files, request⟩
    ⟨hSimple, hLength, hId, hHolds⟩
  refine ⟨isSimple_step hSimple files request,
    by simp [hLength],
    (source_step hSimple files request).1.trans hId, ?_⟩
  simp only [List.zip_append hLength, List.zip_cons_cons,
    List.zip_nil_right, getLast?_filterMap_concat]
  exact holds_step hSimple hHolds files request

/- An array that a turn has read has each id once. -/
theorem nodup_of_load?
    {t : ModuleTurn}
    {files : FileView}
    {path : String}
    {assets : List Asset}
    (hLoad : t.load? files path = some assets) :
    (assets.map (·.id)).Nodup := by
  unfold ModuleTurn.load? at hLoad
  split at hLoad
  · exact AssetSource.nodup_of_load
      (toOption_eq_some_iff.1 hLoad)
  · cases hLoad

end ModuleSession

end DeviceHub
