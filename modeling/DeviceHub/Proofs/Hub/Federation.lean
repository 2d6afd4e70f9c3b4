import DeviceHub.Hub.Federation
import DeviceHub.Proofs.Assets.Federation
import DeviceHub.Proofs.Lifecycle.Address
import DeviceHub.Proofs.Lifecycle.Keeping

/-
  A federation of asset modules after any calls.

  What a file source holds is what was read last, whether by
  a refresh of its module, a refresh of all modules, or a
  start of its component or of one above it.  Hooks are run
  with a journal to tell which modules a start has loaded.

  Key definitions include:
    * `FederationTurn.after`
    * `FederationSession.TurnOf`

  Main statements:
    * `AssetFederation.hooks_eq`
    * `AssetFederation.holds_hooks`
    * `FederationSession.turnOf_step`
    * `FederationSession.TurnOf.holds`
    * `FederationSession.holds_run`
    * `FederationSession.refresh_is_isolated`
-/

namespace DeviceHub

------------------------------------------------------------
-- New Modules
------------------------------------------------------------

namespace ModulePlan

/- A module has been loaded as it says when it is added. -/
theorem holds_used
    (p : ModulePlan) :
    p.used.body.id = p.id ∧
      p.used.body.source.Holds p.held := by
  refine ModuleSession.holds_run
    (Component.isSimple_new _ _ _) ?_ p.earlier
  unfold made ModuleSession.new AssetModule.new
  cases p.origin with
  | fixed assets => trivial
  | file path => exact rfl

/- What was read for it has each id once. -/
theorem nodup_held
    (p : ModulePlan)
    (path : String) :
    ((p.held path).map (·.id)).Nodup := by
  refine getLast?_getD_of_forall
    (P := fun assets : List Asset =>
      (assets.map Asset.id).Nodup) ?_ List.nodup_nil
  intro assets hMem
  rcases List.mem_filterMap.1 hMem with ⟨_, _, hTurn⟩
  exact ModuleSession.nodup_of_load? hTurn

end ModulePlan

------------------------------------------------------------
-- Turns
------------------------------------------------------------

/- A run loads a module if it is a start that ends well. -/
theorem HookRun.loads_iff
    {r : HookRun Part}
    {id : String} :
    r.loads id = true ↔ r.label = .assetModule id ∧
      r.hook = .start ∧ r.result = .ok () := by
  unfold HookRun.loads HookRun.succeeded
  cases r.result with
  | error e => simp
  | ok => simp

namespace FederationTurn

variable {t : FederationTurn}
variable {before : String → String → List Asset}
variable {id : String}

/- What file sources hold after a turn. -/
def after
    (t : FederationTurn)
    (before : String → String → List Asset)
    (id path : String) : List Asset :=
  (t.load? id path).getD (before id path)

/- A turn with one more run of a hook. -/
def addRun
    (t : FederationTurn)
    (r : HookRun Part) : FederationTurn :=
  { t with runs := t.runs ++ [r] }

/- A turn at which no module is added. -/
def KeepsModules
    (t : FederationTurn) : Prop :=
  ∀ plan, t.request ≠ .register plan

theorem load?_eq
    (hKeeps : t.KeepsModules)
    (id path : String) :
    t.load? id path =
      if t.isReload id then
        (AssetSource.load t.files path).toOption
      else
        none := by
  unfold load?
  split
  · rename_i plan _ hRequest _
    exact absurd hRequest (hKeeps plan)
  · rfl

/- A module that is not loaded holds what it held. -/
theorem after_of_quiet
    (hKeeps : t.KeepsModules)
    (hQuiet : t.isReload id = false) :
    t.after before id = before id := by
  funext path
  unfold after
  rw [load?_eq hKeeps, hQuiet]
  rfl

/- One that is loaded holds what its file lists. -/
theorem holds_after
    (hKeeps : t.KeepsModules)
    (hLoaded : t.isReload id = true)
    {s s' : AssetSource}
    (hReload : s.reload t.files = .ok s') :
    s'.Holds (t.after before id) := by
  refine AssetSource.holds_of_reload hReload ?_
  intro path assets hLoad
  unfold after
  rw [load?_eq hKeeps, if_pos hLoaded, hLoad]
  rfl

/- Without any hooks, modules are loaded by refreshes only. -/
theorem isReload_iff
    (hRuns : t.runs = [])
    (id : String) :
    t.isReload id = true ↔
      ∃ r ∈ t.answer.responses, r.moduleId = id ∧
        r.result = .successful := by
  unfold isReload
  rw [hRuns]
  simp

/- A refresh that is reported is a load if it went well. -/
theorem holds_refresh
    (hKeeps : t.KeepsModules)
    {m : AssetModule}
    (hBefore : m.source.Holds (before m.id))
    (hLoaded : t.isReload m.id = true ↔
      (m.refresh t.files).1.result = .successful) :
    (m.refresh t.files).2.source.Holds
      (t.after before m.id) := by
  rcases m.refresh_cases t.files with
    ⟨m', hReload, hRefresh⟩ | ⟨e, _, hRefresh⟩
  · rw [hRefresh] at hLoaded ⊢
    exact holds_after hKeeps (hLoaded.2 rfl)
      (AssetModule.source_of_reload hReload).1
  · rw [hRefresh] at hLoaded ⊢
    rw [after_of_quiet hKeeps]
    · exact hBefore
    · refine Bool.eq_false_iff.2 fun hTrue => ?_
      cases hLoaded.1 hTrue

theorem isReload_addRun
    (t : FederationTurn)
    (r : HookRun Part)
    (id : String) :
    (t.addRun r).isReload id =
      (t.isReload id || r.loads id) := by
  unfold isReload addRun
  simp [List.any_append, Bool.or_assoc]

theorem after_addRun
    (hKeeps : t.KeepsModules)
    {r : HookRun Part}
    (hRun : ¬ r.loads id = true) :
    (t.addRun r).after before id = t.after before id := by
  funext path
  have hKeeps' : (t.addRun r).KeepsModules := hKeeps
  unfold after
  rw [load?_eq hKeeps, load?_eq hKeeps', isReload_addRun,
    Bool.eq_false_iff.2 hRun, Bool.or_false]
  rfl

/- What is read at a turn has each id once. -/
theorem nodup_of_load?
    {path : String}
    {assets : List Asset}
    (hLoad : t.load? id path = some assets) :
    (assets.map (·.id)).Nodup := by
  unfold load? at hLoad
  split at hLoad
  · split at hLoad
    · cases hLoad
      exact ModulePlan.nodup_held _ path
    · cases hLoad
  · split at hLoad
    · exact AssetSource.nodup_of_load
        (toOption_eq_some_iff.1 hLoad)
    · cases hLoad

/- So has what was read last. -/
theorem nodup_held
    (turns : List FederationTurn)
    (id path : String) :
    ((held turns id path).map (·.id)).Nodup := by
  refine getLast?_getD_of_forall
    (P := fun assets : List Asset =>
      (assets.map Asset.id).Nodup) ?_ List.nodup_nil
  intro assets hMem
  rcases List.mem_filterMap.1 hMem with ⟨_, _, hLoad⟩
  exact nodup_of_load? hLoad

end FederationTurn

------------------------------------------------------------
-- Hooks
------------------------------------------------------------

namespace AssetFederation

/- The hub's hooks for its federation are the federation's. -/
theorem hooks_eq
    (e : Equipment)
    (c : Component Part)
    (hLabel : c.label = .assets ∨
      ∃ id, c.label = .assetModule id)
    {hook : Hook}
    (hHook : hook = .start ∨ hook = .stop) :
    Equipment.hooks c hook e =
      ((hooks e.files c hook e.assets).1, { e with
        assets := (hooks e.files c hook e.assets).2 }) := by
  rcases hLabel with hLabel | ⟨id, hLabel⟩
  · unfold Equipment.hooks hooks
    rw [hLabel]
  · unfold Equipment.hooks hooks
    simp only [hLabel]
    cases hModule : e.assets.module? id with
    | error f =>
        unfold Equipment.moduleHook
        rcases hHook with rfl | rfl <;> simp only [hModule]
    | ok m =>
        rw [AssetModule.moduleHook_eq hModule c hHook]
        rfl

/- A hook loads the module that it belongs to, or none. -/
theorem holds_hooks
    {t : FederationTurn}
    (hKeeps : t.KeepsModules)
    {before : String → String → List Asset}
    {f : AssetFederation}
    (hHolds : f.Holds (t.after before))
    (c : Component Part)
    (hook : Hook) :
    (hooks t.files c hook f).2.Holds
      ((t.addRun ⟨c.label, hook, (hooks t.files c hook f).1⟩
        ).after before) := by
  have hOther : ∀ result id, c.label ≠ .assetModule id →
      (t.addRun ⟨c.label, hook, result⟩).after before id =
        t.after before id := by
    intro result id hLabel
    refine FederationTurn.after_addRun hKeeps fun hLoads => ?_
    exact hLabel (HookRun.loads_iff.1 hLoads).1
  unfold hooks
  split
  · rename_i id hLabel
    cases hModule : f.module? id with
    | error e =>
        refine hHolds.congr fun m hMem => hOther _ m.id ?_
        rw [hLabel]
        intro hSame
        cases hSame
        exact ne_of_module?_error hModule m hMem rfl
    | ok m =>
        rcases mem_of_module?_ok hModule with ⟨hMem, rfl⟩
        rcases m.source_hooks t.files c hook with
          ⟨hId, hSource⟩
        refine hHolds.replace ?_ fun id hElse => ?_
        · rw [hId]
          rcases hSource with
            ⟨rfl, hOk, hReload⟩ | ⟨hQuiet, hSame⟩
          · refine FederationTurn.holds_after
              (t := t.addRun _) hKeeps ?_ hReload
            rw [FederationTurn.isReload_addRun,
              HookRun.loads_iff.2 ⟨hLabel, rfl, hOk⟩,
              Bool.or_true]
          · rw [hSame, FederationTurn.after_addRun hKeeps]
            · exact hHolds.sources m hMem
            · intro hLoads
              exact hQuiet (HookRun.loads_iff.1 hLoads).2
        · refine hOther _ id ?_
          rw [hLabel]
          intro hSame
          cases hSame
          exact hElse hId.symm
  · rename_i hLabel
    exact hHolds.congr fun m _ => hOther _ m.id (hLabel m.id)

------------------------------------------------------------
-- Federations
------------------------------------------------------------

variable {f : AssetFederation}
variable {files : FileView}
variable {before : String → String → List Asset}
variable (hHolds : f.Holds before)

include hHolds

/- A new module comes with what was read for it. -/
theorem holds_registered
    {plan : ModulePlan}
    {f' : AssetFederation}
    (hRegister : f.register plan.used.body = .ok f') :
    f'.Holds (FederationTurn.after
      ⟨files, .register plan, .registered (.ok ()), []⟩
      before) := by
  rcases plan.holds_used with ⟨hId, hSource⟩
  refine hHolds.register hRegister ?_ fun id hOther => ?_
  · rw [hId]
    unfold FederationTurn.after FederationTurn.load?
    simp only [if_true, Option.getD_some]
    exact hSource
  · rw [hId] at hOther
    unfold FederationTurn.after FederationTurn.load?
    simp only [if_neg (Ne.symm hOther), Option.getD_none]

/- A look-up reads no file. -/
theorem holds_found
    {m : AssetModule}
    (hMem : m ∈ f.modules)
    (id : String) :
    (f.replace (m.find id).2).Holds before := by
  rcases m.source_find id with ⟨hSource, hId⟩
  refine hHolds.replace ?_ fun _ _ => rfl
  rw [hSource, hId]
  exact hHolds.sources m hMem

/- A refresh of one module leaves all others alone. -/
theorem holds_refreshed
    {m : AssetModule}
    (hMem : m ∈ f.modules)
    {moduleId : String} :
    (f.replace (m.refresh files).2).Holds
      (FederationTurn.after
        ⟨files, .refresh moduleId,
          .refreshed (.ok (m.refresh files).1), []⟩
        before) := by
  have hReload := FederationTurn.isReload_iff
    (t := ⟨files, .refresh moduleId,
      .refreshed (.ok (m.refresh files).1), []⟩) rfl
  simp only [FederationAnswer.responses, List.mem_singleton,
    exists_eq_left, m.moduleId_refresh] at hReload
  refine hHolds.replace ?_ fun id hOther => ?_
  · rw [m.id_refresh]
    refine FederationTurn.holds_refresh
      (fun _ hSame => by cases hSame)
      (hHolds.sources m hMem) ?_
    rw [hReload, eq_self_iff_true, true_and]
  · rw [m.id_refresh] at hOther
    refine FederationTurn.after_of_quiet
      (fun _ hSame => by cases hSame)
      (Bool.eq_false_iff.2 fun hLoaded => ?_)
    exact hOther ((hReload id).1 hLoaded).1.symm

/- A refresh of all modules is one for each of them. -/
theorem holds_refreshedAll :
    (f.refreshAll files).2.Holds
      (FederationTurn.after
        ⟨files, .refreshAll,
          .refreshedAll (f.refreshAll files).1, []⟩
        before) := by
  have hReload := FederationTurn.isReload_iff
    (t := ⟨files, .refreshAll,
      .refreshedAll (f.refreshAll files).1, []⟩) rfl
  constructor
  · rw [moduleIds_refreshAll]
    exact hHolds.ids
  · intro n hMem
    rcases mem_refreshAll.1 hMem with ⟨m, hm, rfl⟩
    rw [m.id_refresh]
    refine FederationTurn.holds_refresh
      (fun _ hSame => by cases hSame)
      (hHolds.sources m hm) ?_
    rw [hReload]
    exact exists_response_iff hHolds.ids hm

/- A lifecycle call does what the hooks do that it runs. -/
theorem holds_controlled
    {p : Address}
    {action : LifecycleAction}
    (u : Tree Part)
    {answer : Option (Except LifecycleError Status)} :
    (u.call (hooks files) action f).state.Holds
      (FederationTurn.after
        ⟨files, .control p action, .controlled answer,
          (u.call (hooks files).journaled action
            (f, [])).state.2⟩
        before) := by
  have hAlike :=
    Tree.alike_journaled (hooks files) action u f []
  rw [← hAlike.state.1]
  exact Tree.call_keeps
    (Q := fun x : AssetFederation × List (HookRun Part) =>
      x.1.Holds (FederationTurn.after
        ⟨files, .control p action, .controlled answer, x.2⟩
        before))
    (fun c hook x hx =>
      holds_hooks (fun _ hSame => by cases hSame) hx c hook)
    action u hHolds

end AssetFederation

------------------------------------------------------------
-- Calls
------------------------------------------------------------

namespace FederationSession

/- The ways in which a call can go, with what is kept of it. -/
inductive TurnOf
    (s : FederationSession)
    (files : FileView) :
    FederationTurn → FederationSession → Prop where
  | unchanged
      {t : FederationTurn}
      (hQuiet : ∀ id path, t.load? id path = none) :
      TurnOf s files t s
  | registered
      {plan : ModulePlan}
      {f : AssetFederation}
      (hRegister :
        s.federation.register plan.used.body = .ok f) :
      TurnOf s files
        ⟨files, .register plan, .registered (.ok ()), []⟩
        ⟨f, s.tree.addChild (.leaf plan.used.component)⟩
  | found
      {moduleId id : String}
      {m : AssetModule}
      (hMem : m ∈ s.federation.modules) :
      TurnOf s files
        ⟨files, .find moduleId id, .found (.ok (m.find id).1),
          []⟩
        { s with
          federation := s.federation.replace (m.find id).2 }
  | refreshed
      {moduleId : String}
      {m : AssetModule}
      (hMem : m ∈ s.federation.modules) :
      TurnOf s files
        ⟨files, .refresh moduleId,
          .refreshed (.ok (m.refresh files).1), []⟩
        { s with federation :=
            s.federation.replace (m.refresh files).2 }
  | refreshedAll :
      TurnOf s files
        ⟨files, .refreshAll,
          .refreshedAll (s.federation.refreshAll files).1, []⟩
        { s with federation :=
            (s.federation.refreshAll files).2 }
  | controlled
      {p : Address}
      {action : LifecycleAction}
      {o : Tree.Outcome Part AssetFederation}
      {u tree : Tree Part}
      (hCall :
        u.call (AssetFederation.hooks files) action
          s.federation = o) :
      TurnOf s files
        ⟨files, .control p action,
          .controlled (some o.result),
          (u.call (AssetFederation.hooks files).journaled
            action (s.federation, [])).state.2⟩
        ⟨o.state, tree⟩

variable {s : FederationSession}

theorem turnOf_step
    (s : FederationSession)
    (files : FileView)
    (request : FederationRequest) :
    TurnOf s files (s.turn files request)
      (s.step files request).2 := by
  cases request with
  | register plan =>
      unfold turn
      simp only [step, runs]
      cases hRegister :
          s.federation.register plan.used.body with
      | error e => exact .unchanged fun _ _ => rfl
      | ok f => exact .registered hRegister
  | find moduleId id =>
      unfold turn
      simp only [step, runs, AssetFederation.find]
      cases hModule : s.federation.module? moduleId with
      | error e => exact .unchanged fun _ _ => rfl
      | ok m =>
          exact .found
            (AssetFederation.mem_of_module?_ok hModule).1
  | search | stats => exact .unchanged fun _ _ => rfl
  | refresh moduleId =>
      unfold turn
      simp only [step, runs, AssetFederation.refresh]
      cases hModule : s.federation.module? moduleId with
      | error e => exact .unchanged fun _ _ => rfl
      | ok m =>
          exact .refreshed
            (AssetFederation.mem_of_module?_ok hModule).1
  | refreshAll => exact .refreshedAll
  | control p action =>
      unfold turn
      cases hPart : s.tree.part? p with
      | none =>
          simp only [step, runs, Tree.callAt?, hPart,
            Option.map_none]
          exact .unchanged fun _ _ => rfl
      | some u =>
          simp only [step, runs, Tree.callAt?_eq_some hPart]
          exact .controlled rfl

variable {files : FileView}
variable {t : FederationTurn}
variable {before : String → String → List Asset}

/- A refresh of a module that is there. -/
theorem step_refresh
    {moduleId : String}
    {response : RefreshResponse}
    {f : AssetFederation}
    (hRefresh : s.federation.refresh files moduleId =
      .ok (response, f)) :
    s.step files (.refresh moduleId) =
      (.refreshed (.ok response), ⟨f, s.tree⟩) := by
  simp only [step, proceed, hRefresh]

/- A file source holds what was read for it last. -/
theorem TurnOf.holds
    {s' : FederationSession}
    (hTurn : TurnOf s files t s')
    (hHolds : s.federation.Holds before) :
    s'.federation.Holds (t.after before) := by
  cases hTurn with
  | unchanged hQuiet =>
      refine hHolds.congr fun m _ => funext fun path => ?_
      unfold FederationTurn.after
      rw [hQuiet]
      rfl
  | registered hRegister =>
      exact AssetFederation.holds_registered hHolds hRegister
  | found hMem =>
      exact AssetFederation.holds_found hHolds hMem _
  | refreshed hMem =>
      exact AssetFederation.holds_refreshed hHolds hMem
  | refreshedAll =>
      exact AssetFederation.holds_refreshedAll hHolds
  | controlled hCall =>
      subst hCall
      exact AssetFederation.holds_controlled hHolds _

/- So it does after any calls. -/
theorem holds_run
    (hHolds : s.federation.Holds before)
    (calls : List (FileView × FederationRequest)) :
    (s.run calls).2.federation.Holds fun id path =>
      ((s.run calls).1.filterMap (·.load? id path)
        ).getLast?.getD (before id path) := by
  refine runAll_induct
    (P := fun _ (turns : List FederationTurn)
        (s : FederationSession) =>
      s.federation.Holds fun id path =>
        (turns.filterMap (·.load? id path)
          ).getLast?.getD (before id path))
    ?_ hHolds calls
  rintro - turns s ⟨files, request⟩ hHolds
  simp only [getLast?_filterMap_concat]
  exact (turnOf_step s files request).holds hHolds

/-
  After any calls, when all modules are refreshed at once:
  there is one answer for each module, in the order of their
  registration.  Each answer, and what it makes of the module,
  is as if this module alone were refreshed, and no status
  changes.  At all times the modules have different ids, and a
  file source holds, each id once, the array that was read for
  it last.
-/
theorem refresh_is_isolated
    (calls : List (FileView × FederationRequest))
    (files : FileView) :
    let r := new.run calls
    let s := r.2
    let modules := s.federation.modules
    let all := s.step files .refreshAll
    (∃ responses, all.1 = .refreshedAll responses ∧
      responses.map (·.moduleId) = s.federation.moduleIds ∧
      all.2.federation.moduleIds = s.federation.moduleIds ∧
      all.2.tree = s.tree ∧
      ∀ i m, modules[i]? = some m →
        ∃ response m',
          responses[i]? = some response ∧
          all.2.federation.modules[i]? = some m' ∧
          s.step files (.refresh m.id) =
            (.refreshed (.ok response),
              ⟨⟨modules.set i m'⟩, s.tree⟩) ∧
          m.Refreshed files response m') ∧
    s.federation.moduleIds.Nodup ∧
    ∀ m ∈ modules, ∀ path assets,
      m.source = .file path assets →
        assets = FederationTurn.held r.1 m.id path ∧
        (assets.map (·.id)).Nodup := by
  intro r s modules all
  have hEmpty : new.federation.Holds fun _ _ => [] := .empty
  have hHolds := holds_run hEmpty calls
  refine ⟨⟨(s.federation.refreshAll files).1, rfl,
    s.federation.responses_refreshAll files,
    s.federation.moduleIds_refreshAll files, rfl,
    fun i m hAt => ?_⟩, hHolds.ids,
    fun m hMem path assets hFile => ?_⟩
  · rcases AssetFederation.refreshAll_isolated hHolds.ids hAt
        files with
      ⟨response, m', hResponse, hAfter, hAlone, hRefreshed⟩
    exact ⟨response, m', hResponse, hAfter,
      step_refresh hAlone, hRefreshed⟩
  · have hLast := hHolds.sources m hMem
    rw [hFile] at hLast
    refine ⟨hLast, ?_⟩
    rw [show assets = _ from hLast]
    exact FederationTurn.nodup_held r.1 m.id path

/- A file with an empty array, and one that is not there. -/
example :
    let files : FileView := fun path =>
      if path == "a" then .content [91, 93] else .missing
    let plan id : ModulePlan :=
      ⟨id, id, .hardware, .file id, true, []⟩
    let s := (new.run [(files, .register (plan "a")),
      (files, .register (plan "b"))]).2
    (s.step files .refreshAll).1.responses.map (·.result) =
      [.successful, .failed] := by
  decide

end FederationSession

end DeviceHub
