import DeviceHub.Proofs.Except
import DeviceHub.Proofs.Hub.Control
import DeviceHub.Proofs.Lifecycle.Verdicts

/-
  How the hooks of a hub end.

  A hook goes by how the hub was put together: by the kinds
  of its pipelines, the sources of its modules, and so on.
  What other hooks have done makes no difference to it.

  Key definitions include:
    * `AssetModule.plan`
    * `Equipment.SamePlan`
    * `Equipment.verdict`

  Main statements:
    * `Equipment.hooks_settled`
-/

------------------------------------------------------------
-- Pipelines
------------------------------------------------------------

namespace DeviceHub

namespace Pipeline

variable {p p' : Pipeline}

/- Only the kind and the source of a pipeline matter. -/
theorem findDecoder_congr
    (hConfig : p'.config = p.config)
    (registry : CodecRegistry) :
    (p'.findDecoder registry).1 =
      (p.findDecoder registry).1 := by
  unfold findDecoder
  rw [hConfig]
  split <;> rfl

@[simp] theorem config_findDecoder
    (registry : CodecRegistry) :
    (p.findDecoder registry).2.config = p.config := by
  unfold findDecoder
  split <;> rfl

end Pipeline

end DeviceHub

------------------------------------------------------------
-- Asset Modules
------------------------------------------------------------

namespace DeviceHub

/- A source as it was before it was read. -/
def AssetSource.unread : AssetSource → AssetSource
  | fixed assets => fixed assets
  | file path _ => ofFile path

/- What was read before does not matter. -/
theorem AssetSource.reload_unread
    (s : AssetSource)
    (files : FileView) :
    s.unread.reload files = s.reload files := by
  cases s <;> rfl

theorem AssetSource.unread_of_reload
    {s s' : AssetSource}
    {files : FileView}
    (hOk : s.reload files = .ok s') :
    s'.unread = s.unread := by
  cases s with
  | fixed assets =>
      cases hOk
      rfl
  | file path assets =>
      simp only [reload] at hOk
      cases hLoad : load files path with
      | error e =>
          rw [hLoad] at hOk
          cases hOk
      | ok found =>
          rw [hLoad] at hOk
          cases hOk
          rfl

namespace AssetModule

variable {m m' : AssetModule}

/- What is settled of a module when it is made. -/
def plan
    (m : AssetModule) : String × AssetSource :=
  (m.id, m.source.unread)

theorem loadSource_congr
    (hPlan : m'.plan = m.plan)
    (files : FileView) :
    (m'.loadSource files).1 = (m.loadSource files).1 := by
  have hId : m'.id = m.id := congrArg Prod.fst hPlan
  have hSource : m'.source.reload files =
      m.source.reload files := by
    rw [← AssetSource.reload_unread,
      ← m.source.reload_unread]
    exact congrArg (·.reload files) (congrArg Prod.snd hPlan)
  unfold loadSource reload
  rw [hId, hSource]
  cases m.source.reload files <;> rfl

@[simp] theorem plan_renewCache :
    m.renewCache.plan = m.plan := by
  unfold renewCache
  split <;> rfl

theorem plan_of_reload
    {files : FileView}
    (hReload : m.reload files = .ok m') :
    m'.plan = m.plan := by
  rcases map_eq_ok_iff.1 hReload with ⟨source, hSource, rfl⟩
  refine plan_renewCache.trans (Prod.ext rfl ?_)
  exact AssetSource.unread_of_reload hSource

@[simp] theorem plan_loadSource
    (files : FileView) :
    (m.loadSource files).2.plan = m.plan := by
  unfold loadSource
  cases hReload : m.reload files with
  | error e => rfl
  | ok m' => exact plan_of_reload hReload

end AssetModule

/-
  A module put in place of one with the same plan changes no
  plans.
-/
theorem AssetFederation.plan_replace
    {f : AssetFederation}
    {m m' : AssetModule}
    {id : String}
    (hModule : f.module? id = .ok m)
    (hPlan : m'.plan = m.plan)
    (j : String) :
    ((f.replace m').module? j).map AssetModule.plan =
      (f.module? j).map AssetModule.plan := by
  unfold module? at hModule ⊢
  cases hFound : f.modules.find? (·.id == id) with
  | none =>
      rw [hFound] at hModule
      cases hModule
  | some n =>
      rw [hFound] at hModule
      cases hModule
      have hId : m.id = id := by
        simpa using List.find?_some hFound
      have hSame : m'.id = id :=
        (congrArg Prod.fst hPlan).trans hId
      have hIds : ∀ n : AssetModule,
          (if n.id == m'.id then m' else n).id = n.id := by
        intro n
        split
        · rename_i hBeq
          exact (beq_iff_eq.1 hBeq).symm
        · rfl
      have hFind : (f.replace m').modules.find? (·.id == j) =
          (f.modules.find? (·.id == j)).map fun n =>
            if n.id == m'.id then m' else n := by
        unfold replace
        rw [List.find?_map]
        simp only [Function.comp_def, hIds]
      rw [hFind]
      cases hOther : f.modules.find? (·.id == j) with
      | none => rfl
      | some n =>
          dsimp only [Option.map_some]
          split
          · rename_i hBeq
            -- The module there is the one that was replaced.
            have hn : n.id = j := by
              simpa using List.find?_some hOther
            have hj : j = id := by
              rw [← hn, beq_iff_eq.1 hBeq, hSame]
            subst hj
            rw [hFound] at hOther
            cases hOther
            exact congrArg Except.ok hPlan
          · rfl

end DeviceHub

------------------------------------------------------------
-- Equipment
------------------------------------------------------------

namespace DeviceHub

namespace Equipment

/- Equipment that was set up alike. -/
structure SamePlan
    (e e' : Equipment) : Prop where
  fixtures : e.SameFixtures e'
  configs : e'.pipelines.map (·.config) =
    e.pipelines.map (·.config)
  modules : ∀ id,
    (e'.assets.module? id).map AssetModule.plan =
      (e.assets.module? id).map AssetModule.plan

namespace SamePlan

theorem refl
    (e : Equipment) :
    e.SamePlan e :=
  ⟨.refl e, rfl, fun _ => rfl⟩

theorem trans
    {e e' e'' : Equipment}
    (hFirst : e.SamePlan e')
    (hSecond : e'.SamePlan e'') :
    e.SamePlan e'' where
  fixtures := hFirst.fixtures.trans hSecond.fixtures
  configs := hSecond.configs.trans hFirst.configs
  modules := fun id =>
    (hSecond.modules id).trans (hFirst.modules id)

variable {e e' : Equipment}

/- A pipeline with its configuration fits in its place. -/
theorem setPipeline
    {place : Nat}
    {p p' : Pipeline}
    (hAt : e.pipelines[place]? = some p)
    (hConfig : p'.config = p.config) :
    e.SamePlan (e.setPipeline place p') where
  fixtures := ⟨rfl, rfl, rfl, rfl, rfl⟩
  configs := by
    refine List.ext_getElem? fun j => ?_
    unfold Equipment.setPipeline
    rw [List.getElem?_map, List.getElem?_map,
      List.getElem?_set]
    split
    · rename_i hj
      subst hj
      rw [if_pos (List.getElem?_eq_some_iff.1 hAt).1, hAt,
        Option.map_some, Option.map_some, hConfig]
    · rfl
  modules := fun _ => rfl

/- A module with its plan fits in its place. -/
theorem setModule
    {id : String}
    {m m' : AssetModule}
    (hModule : e.assets.module? id = .ok m)
    (hPlan : m'.plan = m.plan) :
    e.SamePlan (e.setModule m') where
  fixtures := ⟨rfl, rfl, rfl, rfl, rfl⟩
  configs := rfl
  modules := AssetFederation.plan_replace hModule hPlan

/- The pipelines at a place have the same configuration. -/
theorem pipeline_cases
    (hSame : e.SamePlan e')
    (place : Nat) :
    (e.pipelines[place]? = none ∧
      e'.pipelines[place]? = none) ∨
    ∃ p p', e.pipelines[place]? = some p ∧
      e'.pipelines[place]? = some p' ∧
      p'.config = p.config := by
  have hConfigs := congrArg (·[place]?) hSame.configs
  simp only [List.getElem?_map] at hConfigs
  cases hBefore : e.pipelines[place]? with
  | none =>
      rw [hBefore] at hConfigs
      exact .inl ⟨rfl, Option.map_eq_none_iff.1 hConfigs⟩
  | some p =>
      rw [hBefore] at hConfigs
      rcases Option.map_eq_some_iff.1 hConfigs with
        ⟨p', hAfter, hConfig⟩
      exact .inr ⟨p, p', rfl, hAfter, hConfig⟩

/- The modules with an id have the same plan. -/
theorem module_cases
    (hSame : e.SamePlan e')
    (id : String) :
    (∃ f f', e.assets.module? id = .error f ∧
      e'.assets.module? id = .error f') ∨
    ∃ m m', e.assets.module? id = .ok m ∧
      e'.assets.module? id = .ok m' ∧
      m'.plan = m.plan := by
  have hPlans := hSame.modules id
  cases hBefore : e.assets.module? id with
  | error f =>
      cases hAfter : e'.assets.module? id with
      | error f' => exact .inl ⟨f, f', rfl, rfl⟩
      | ok m' =>
          rw [hBefore, hAfter] at hPlans
          cases hPlans
  | ok m =>
      cases hAfter : e'.assets.module? id with
      | error f' =>
          rw [hBefore, hAfter] at hPlans
          cases hPlans
      | ok m' =>
          rw [hBefore, hAfter] at hPlans
          exact .inr ⟨m, m', rfl, rfl,
            Except.ok.inj hPlans⟩

end SamePlan

variable {e e' : Equipment}

theorem pipelineHook_settled
    (hSame : e.SamePlan e')
    (place : Nat)
    (hook : Hook) :
    (pipelineHook place hook e').1 =
        (pipelineHook place hook e).1 ∧
      e'.SamePlan (pipelineHook place hook e').2 := by
  unfold pipelineHook
  rcases hSame.pipeline_cases place with
    ⟨hBefore, hAfter⟩ | ⟨p, p', hBefore, hAfter, hConfig⟩
  · rw [hBefore, hAfter]
    exact ⟨rfl, .refl e'⟩
  · rw [hBefore, hAfter, hSame.fixtures.registry]
    cases hook with
    | start =>
        exact ⟨Pipeline.findDecoder_congr hConfig _,
          .setPipeline hAfter (Pipeline.config_findDecoder _)⟩
    | stop => exact ⟨rfl, .setPipeline hAfter rfl⟩
    | pause => exact ⟨rfl, .refl e'⟩
    | resume => exact ⟨rfl, .refl e'⟩

theorem moduleHook_settled
    (hSame : e.SamePlan e')
    (id : String)
    (hook : Hook) :
    (moduleHook id hook e').1 = (moduleHook id hook e).1 ∧
      e'.SamePlan (moduleHook id hook e').2 := by
  unfold moduleHook
  rcases hSame.module_cases id with
    ⟨f, f', hBefore, hAfter⟩ |
      ⟨m, m', hBefore, hAfter, hPlan⟩
  · rw [hBefore, hAfter]
    exact ⟨rfl, .refl e'⟩
  · rw [hBefore, hAfter, hSame.fixtures.files]
    cases hook with
    | start =>
        exact ⟨AssetModule.loadSource_congr hPlan _,
          .setModule hAfter (AssetModule.plan_loadSource _)⟩
    | stop => exact ⟨rfl, .setModule hAfter rfl⟩
    | pause => exact ⟨rfl, .refl e'⟩
    | resume => exact ⟨rfl, .refl e'⟩

/- How the hooks of the components of a part end. -/
def verdict
    (e : Equipment)
    (part : Part)
    (hook : Hook) : Except LifecycleError Unit :=
  (hooks (.new part "" .supervisor) hook e).1

/- What hooks have done changes nothing for other hooks. -/
theorem hooks_settled
    (c : Component Part)
    (hook : Hook)
    (hSame : e.SamePlan e') :
    (hooks c hook e').1 = e.verdict c.label hook ∧
      e.SamePlan (hooks c hook e').2 := by
  unfold verdict hooks
  have hLabel : (Component.new c.label "" .supervisor).label =
      c.label := rfl
  rw [hLabel]
  cases c.label with
  | pipeline place =>
      have hHook := pipelineHook_settled hSame place hook
      exact ⟨hHook.1, hSame.trans hHook.2⟩
  | destination place =>
      have hFixtures := hSame.fixtures.destinations
      dsimp only
      unfold destinationHook
      rw [hFixtures]
      split <;> exact ⟨rfl, hSame⟩
  | assetModule id =>
      have hHook := moduleHook_settled hSame id hook
      exact ⟨hHook.1, hSame.trans hHook.2⟩
  | router =>
      cases hook with
      | start =>
          dsimp only
          rw [hSame.fixtures.router]
          exact ⟨rfl, hSame⟩
      | pause => exact ⟨rfl, hSame⟩
      | resume => exact ⟨rfl, hSame⟩
      | stop => exact ⟨rfl, hSame⟩
  | supervisor => exact ⟨rfl, hSame⟩
  | batch => exact ⟨rfl, hSame⟩
  | assets => exact ⟨rfl, hSame⟩

end Equipment

end DeviceHub
