import DeviceHub.Proofs.Assets.Order
import DeviceHub.Proofs.Hub.Federation
import DeviceHub.Proofs.Hub.Verdicts

/-
  What is found in a federation of asset modules.

  Each module comes from a plan that was accepted, and no
  call makes another module of it.  So its assets are those
  of the plan, or those that were read for it last, and its
  cache gives nothing else.  What is found in it depends on
  these alone.

  Key definitions include:
    * `AssetModule.Faithful`
    * `ModulePlan.Yields`
    * `AssetFederation.Consists`

  Main statements:
    * `AssetFederation.Consists.hooks`
    * `FederationSession.TurnOf.consists`
    * `FederationSession.consists_run_new`
    * `FederationSession.search_selects`
-/

------------------------------------------------------------
-- Modules
------------------------------------------------------------

namespace DeviceHub

namespace AssetModule

variable {m m' : AssetModule}

/- The cache, if there is one, gives what the source has. -/
inductive Faithful
    (m : AssetModule) : Prop where
  | cached
      (hTwin : m.Twin m.uncached)
  | plain
      (hSame : m.uncached = m)

/- One of two twins is the other without its cache. -/
theorem Twin.faithful
    {u : AssetModule}
    (hTwin : m.Twin u) :
    m.Faithful := by
  refine .cached ?_
  rw [← hTwin.uncached]
  exact hTwin

theorem faithful_new
    (id name : String)
    (type : AssetType)
    (source : AssetSource)
    (cacheEnabled : Bool) :
    (new id name type source cacheEnabled).Faithful := by
  cases cacheEnabled with
  | false => exact .plain rfl
  | true => exact (twin_new id name type source).faithful

namespace Faithful

variable (hFaithful : m.Faithful)

include hFaithful

theorem find
    (id : String) :
    (m.find id).1 = m.source.find? id ∧
      (m.find id).2.Faithful := by
  cases hFaithful with
  | cached hTwin =>
      have hFind := hTwin.find id
      exact ⟨hFind.1, hFind.2.faithful⟩
  | plain hSame =>
      rw [← hSame]
      exact ⟨rfl, .plain rfl⟩

theorem reload
    {files : FileView}
    (hReload : m.reload files = .ok m') :
    m'.Faithful := by
  cases hFaithful with
  | cached hTwin =>
      rcases hTwin.reload files with
        ⟨e, hFailed, -⟩ | ⟨n, u, hDone, -, hTwin'⟩
      · rw [hFailed] at hReload
        cases hReload
      · rw [hDone] at hReload
        cases hReload
        exact hTwin'.faithful
  | plain hSame =>
      rw [← hSame] at hReload
      rcases map_eq_ok_iff.1 hReload with ⟨source, -, rfl⟩
      exact .plain rfl

theorem dropCache :
    { m with cache := none }.Faithful := by
  cases hFaithful with
  | cached hTwin => exact hTwin.dropCache.2.faithful
  | plain hSame =>
      rw [← hSame]
      exact .plain rfl

end Faithful

theorem plan_find
    (id : String) :
    (m.find id).2.plan = m.plan := by
  rcases m.source_find id with ⟨hSource, hId⟩
  unfold plan
  rw [hSource, hId]

end AssetModule

------------------------------------------------------------
-- Plans
------------------------------------------------------------

namespace ModulePlan

/- A module that was made by a plan, whatever came after. -/
structure Yields
    (p : ModulePlan)
    (m : AssetModule) : Prop where
  plan : m.plan = (p.id, p.origin.source)
  faithful : m.Faithful

namespace Yields

variable {p : ModulePlan}
variable {m m' : AssetModule}
variable (hYields : p.Yields m)

include hYields

theorem id_eq :
    m.id = p.id :=
  congrArg Prod.fst hYields.plan

theorem find
    (id : String) :
    p.Yields (m.find id).2 where
  plan := (AssetModule.plan_find id).trans hYields.plan
  faithful := (hYields.faithful.find id).2

theorem reload
    {files : FileView}
    (hReload : m.reload files = .ok m') :
    p.Yields m' where
  plan :=
    (AssetModule.plan_of_reload hReload).trans hYields.plan
  faithful := hYields.faithful.reload hReload

theorem dropCache :
    p.Yields { m with cache := none } where
  plan := hYields.plan
  faithful := hYields.faithful.dropCache

theorem refresh
    (files : FileView) :
    p.Yields (m.refresh files).2 := by
  rcases m.refresh_cases files with
    ⟨m', hReload, hRefresh⟩ | ⟨e, -, hRefresh⟩
  · rw [hRefresh]
    exact hYields.reload hReload
  · rw [hRefresh]
    exact hYields

theorem hooks
    {κ : Type}
    (files : FileView)
    (c : Component κ)
    (hook : Hook) :
    p.Yields (AssetModule.hooks files c hook m).2 := by
  cases hook with
  | start =>
      change p.Yields (m.loadSource files).2
      unfold AssetModule.loadSource
      cases hReload : m.reload files with
      | error e => exact hYields
      | ok m' => exact hYields.reload hReload
  | stop => exact hYields.dropCache
  | pause | resume => exact hYields

/- The assets are the plan's, or what was read last. -/
theorem assets_eq
    {held : String → List Asset}
    (hHolds : m.source.Holds held) :
    m.source.assets = p.assets held := by
  have hSource : m.source.unread = p.origin.source :=
    congrArg Prod.snd hYields.plan
  unfold assets
  cases hOrigin : p.origin with
  | fixed assets =>
      rw [hOrigin] at hSource
      cases hKind : m.source with
      | fixed found =>
          rw [hKind] at hSource
          exact AssetSource.fixed.inj hSource
      | file path found =>
          rw [hKind] at hSource
          cases hSource
  | file path =>
      rw [hOrigin] at hSource
      cases hKind : m.source with
      | fixed found =>
          rw [hKind] at hSource
          cases hSource
      | file path' found =>
          rw [hKind] at hSource hHolds
          cases hSource
          exact hHolds

end Yields

/- What is asked of a module makes no other module of it. -/
theorem Yields.step
    {κ : Type}
    {p : ModulePlan}
    {s : ModuleSession κ}
    (hSimple : s.component.IsSimple)
    (hYields : p.Yields s.body)
    (files : FileView)
    (request : ModuleRequest) :
    p.Yields (s.step files request).2.body := by
  cases request with
  | find id => exact hYields.find id
  | search | stats => exact hYields
  | refresh => exact hYields.refresh files
  | control action =>
      have hControl :=
        ModuleSession.controlOf_step hSimple files action
      generalize s.step files (.control action) = r
        at hControl ⊢
      cases hControl with
      | kept => exact hYields
      | reloaded hReload => exact hYields.reload hReload
      | dropped => exact hYields.dropCache

theorem Yields.run
    {κ : Type}
    {p : ModulePlan}
    {s : ModuleSession κ}
    (hSimple : s.component.IsSimple)
    (hYields : p.Yields s.body)
    (calls : List (FileView × ModuleRequest)) :
    p.Yields (s.run calls).2.body := by
  refine (runAll_keeps
    (P := fun s : ModuleSession κ =>
      s.component.IsSimple ∧ p.Yields s.body)
    ?_ ⟨hSimple, hYields⟩ calls).2
  rintro s ⟨files, request⟩ ⟨hSimple, hYields⟩
  exact ⟨ModuleSession.isSimple_step hSimple files request,
    hYields.step hSimple files request⟩

/- A module comes to a federation as its plan has it. -/
theorem yields_used
    (p : ModulePlan) :
    p.Yields p.used.body := by
  refine Yields.run (Component.isSimple_new _ _ _) ?_
    p.earlier
  refine ⟨Prod.ext rfl ?_,
    AssetModule.faithful_new _ _ _ _ _⟩
  change p.origin.source.unread = p.origin.source
  cases p.origin with
  | fixed assets => rfl
  | file path => rfl

end ModulePlan

------------------------------------------------------------
-- Federations
------------------------------------------------------------

/- What is on the left is paired with something. -/
theorem exists_of_mem_left
    {α β : Type}
    {R : α → β → Prop}
    {as : List α}
    {bs : List β}
    (hAll : List.Forall₂ R as bs)
    {a : α}
    (hMem : a ∈ as) :
    ∃ b ∈ bs, R a b := by
  induction hAll with
  | nil => cases hMem
  | cons hHere _ ih =>
      rcases List.mem_cons.1 hMem with rfl | hLater
      · exact ⟨_, List.mem_cons_self, hHere⟩
      · rcases ih hLater with ⟨b, hb, hPair⟩
        exact ⟨b, List.mem_cons_of_mem _ hb, hPair⟩

namespace AssetFederation

/- The modules are those of some plans, in their order. -/
structure Consists
    (f : AssetFederation)
    (plans : List ModulePlan) : Prop where
  ids : f.moduleIds.Nodup
  modules : List.Forall₂ ModulePlan.Yields plans f.modules

theorem consists_empty :
    empty.Consists [] :=
  ⟨List.nodup_nil, .nil⟩

namespace Consists

variable {f f' : AssetFederation}
variable {plans : List ModulePlan}
variable (hConsists : f.Consists plans)

include hConsists

theorem moduleIds_eq :
    f.moduleIds = plans.map (·.id) := by
  have hIds : List.Forall₂ (· = ·) (plans.map (·.id))
      f.moduleIds := by
    refine List.forall₂_map_left_iff.2
      (List.forall₂_map_right_iff.2 ?_)
    exact hConsists.modules.imp fun _ _ hYields =>
      hYields.id_eq.symm
  rw [List.forall₂_eq_eq_eq] at hIds
  exact hIds.symm

/- For each plan there is a module, found under its id. -/
theorem exists_module
    {plan : ModulePlan}
    (hMem : plan ∈ plans) :
    ∃ m ∈ f.modules, plan.Yields m ∧
      f.module? plan.id = .ok m := by
  rcases exists_of_mem_left hConsists.modules hMem with
    ⟨m, hm, hYields⟩
  refine ⟨m, hm, hYields, ?_⟩
  rw [← hYields.id_eq]
  exact module?_of_mem hConsists.ids hm

/- There is none under any other id. -/
theorem module?_of_notMem
    {id : String}
    (hNew : id ∉ plans.map (·.id)) :
    f.module? id = .error (.unknownModule id) := by
  unfold module?
  split
  · rename_i m hFind
    have hTest := List.find?_some hFind
    have hId : m.id ∈ f.moduleIds :=
      List.mem_map_of_mem (List.mem_of_find?_eq_some hFind)
    rw [beq_iff_eq.1 hTest, hConsists.moduleIds_eq] at hId
    exact absurd hId hNew
  · rfl

theorem register
    {plan : ModulePlan}
    (hRegister : f.register plan.used.body = .ok f') :
    f'.Consists (plans ++ [plan]) := by
  refine ⟨nodup_register hConsists.ids hRegister, ?_⟩
  rcases register_eq_ok_iff.1 hRegister with ⟨-, rfl⟩
  exact List.rel_append hConsists.modules
    (.cons plan.yields_used .nil)

theorem replace
    {m m' : AssetModule}
    (hMem : m ∈ f.modules)
    (hId : m'.id = m.id)
    (hYields : ∀ p : ModulePlan, p.Yields m → p.Yields m') :
    (f.replace m').Consists plans := by
  refine ⟨?_, ?_⟩
  · rw [moduleIds_replace]
    exact hConsists.ids
  refine List.forall₂_map_right_iff.2
    (List.forall₂_iff_zip.2
      ⟨hConsists.modules.length_eq, fun {p n} hZip => ?_⟩)
  have hBefore := List.forall₂_zip hConsists.modules hZip
  split
  · rename_i hBeq
    -- The module there is the one that was replaced.
    have hSame : n = m := by
      refine eq_of_id_eq hConsists.ids hMem
        (List.of_mem_zip hZip).2 ?_
      rw [beq_iff_eq.1 hBeq, hId]
    rw [hSame] at hBefore
    exact hYields p hBefore
  · exact hBefore

theorem refreshAll
    (files : FileView) :
    (f.refreshAll files).2.Consists plans := by
  refine ⟨?_, ?_⟩
  · rw [moduleIds_refreshAll]
    exact hConsists.ids
  · rw [refreshAll_eq, List.forall₂_map_right_iff]
    exact hConsists.modules.imp fun _ _ hYields =>
      hYields.refresh files

/- A hook makes no other module of the one it belongs to. -/
theorem hooks
    (files : FileView)
    (c : Component Part)
    (hook : Hook) :
    (AssetFederation.hooks files c hook f).2.Consists
      plans := by
  unfold AssetFederation.hooks
  split
  · rename_i id _
    cases hModule : f.module? id with
    | error e => exact hConsists
    | ok m =>
        exact hConsists.replace
          (mem_of_module?_ok hModule).1
          (m.source_hooks files c hook).1
          fun p hYields => hYields.hooks files c hook
  · exact hConsists

end Consists

end AssetFederation

------------------------------------------------------------
-- Calls
------------------------------------------------------------

/- A plan is accepted where it says what was read for it. -/
theorem FederationTurn.accepted?_of_quiet
    {t : FederationTurn}
    (hQuiet : ∀ id path, t.load? id path = none) :
    t.accepted? = none := by
  unfold accepted?
  split
  · rename_i plan _ hRequest hAnswer
    have hLoad := hQuiet plan.id ""
    unfold load? at hLoad
    rw [hRequest, hAnswer] at hLoad
    simp only [if_true] at hLoad
    cases hLoad
  · rfl

/- One more turn adds what it accepts. -/
theorem FederationTurn.accepted_concat
    (turns : List FederationTurn)
    (t : FederationTurn) :
    accepted (turns ++ [t]) =
      accepted turns ++ t.accepted?.toList := by
  unfold accepted
  rw [List.filterMap_append]
  cases hLast : t.accepted? with
  | none => simp [hLast]
  | some plan => simp [hLast]

namespace FederationSession

variable {s s' : FederationSession}
variable {plans : List ModulePlan}

/- A call adds the module that it accepts, or none. -/
theorem TurnOf.consists
    {files : FileView}
    {t : FederationTurn}
    (hTurn : TurnOf s files t s')
    (hConsists : s.federation.Consists plans) :
    s'.federation.Consists
      (plans ++ t.accepted?.toList) := by
  cases hTurn with
  | unchanged hQuiet =>
      rw [FederationTurn.accepted?_of_quiet hQuiet,
        Option.toList_none, List.append_nil]
      exact hConsists
  | registered hRegister =>
      exact hConsists.register hRegister
  | @found _ id m hMem =>
      refine (List.append_nil plans).symm ▸ ?_
      exact hConsists.replace hMem (m.source_find id).2
        fun p hYields => hYields.find id
  | @refreshed _ m hMem =>
      refine (List.append_nil plans).symm ▸ ?_
      exact hConsists.replace hMem (m.id_refresh files)
        fun p hYields => hYields.refresh files
  | refreshedAll =>
      refine (List.append_nil plans).symm ▸ ?_
      exact hConsists.refreshAll files
  | @controlled _ action _ u _ hCall =>
      subst hCall
      refine (List.append_nil plans).symm ▸ ?_
      exact Tree.call_keeps
        (Q := fun f : AssetFederation => f.Consists plans)
        (fun c hook f hf => hf.hooks files c hook)
        action u hConsists

/- After any calls the modules are those accepted. -/
theorem consists_run_new
    (calls : List (FileView × FederationRequest)) :
    (new.run calls).2.federation.Consists
      (FederationTurn.accepted (new.run calls).1) := by
  refine runAll_induct
    (P := fun _ turns (s : FederationSession) =>
      s.federation.Consists (FederationTurn.accepted turns))
    ?_ AssetFederation.consists_empty calls
  rintro - turns s ⟨files, request⟩ hConsists
  rw [FederationTurn.accepted_concat]
  exact (turnOf_step s files request).consists hConsists

/- A module is refused if its id is taken, and only then. -/
theorem step_register
    (hConsists : s.federation.Consists plans)
    (files : FileView)
    (plan : ModulePlan) :
    (plan.id ∈ plans.map (·.id) ∧
      s.step files (.register plan) =
        (.registered (.error (.duplicateModule plan.id)),
          s)) ∨
    (plan.id ∉ plans.map (·.id) ∧
      (s.step files (.register plan)).1 =
        .registered (.ok ())) := by
  have hId := plan.yields_used.id_eq
  rw [← hConsists.moduleIds_eq, ← hId]
  by_cases hTaken :
      plan.used.body.id ∈ s.federation.moduleIds
  · refine .inl ⟨hTaken, ?_⟩
    simp only [step,
      AssetFederation.register_of_mem hTaken]
  · refine .inr ⟨hTaken, ?_⟩
    simp only [step,
      AssetFederation.register_eq_ok_iff.2 ⟨hTaken, rfl⟩]

/- While modules are only added, none of them changes. -/
theorem modules_run
    {calls : List (FileView × FederationRequest)}
    (hCalls : ∀ call ∈ calls, ∃ plan,
      call.2 = .register plan) :
    (s.run calls).2.federation.modules =
      s.federation.modules ++
        (FederationTurn.accepted (s.run calls).1).map
          fun plan => plan.used.body := by
  refine runAll_induct
    (P := fun taken turns (u : FederationSession) =>
      (∀ call ∈ taken, ∃ plan, call.2 = .register plan) →
        u.federation.modules = s.federation.modules ++
          (FederationTurn.accepted turns).map
            fun plan => plan.used.body)
    ?_ (fun _ => (List.append_nil _).symm) calls hCalls
  rintro taken turns u ⟨files, request⟩ hSoFar hCalls
  rcases hCalls _ (List.mem_append_right _
    List.mem_cons_self) with ⟨plan, rfl⟩
  have hModules := hSoFar fun call hMem =>
    hCalls call (List.mem_append_left _ hMem)
  rw [FederationTurn.accepted_concat, List.map_append,
    ← List.append_assoc, ← hModules]
  unfold turn FederationTurn.accepted?
  simp only [step]
  cases hRegister :
      u.federation.register plan.used.body with
  | error e => exact (List.append_nil _).symm
  | ok f =>
      rw [(AssetFederation.register_eq_ok_iff.1 hRegister).2]
      rfl

------------------------------------------------------------
-- Searches and Look-Ups
------------------------------------------------------------

section Answers

variable (calls : List (FileView × FederationRequest))
variable {plan : ModulePlan}
variable (hMem :
  plan ∈ FederationTurn.accepted (new.run calls).1)

include hMem

/- The module of a plan, as it is after some calls. -/
theorem exists_selected :
    ∃ m, (new.run calls).2.federation.module? plan.id =
        .ok m ∧
      m.Faithful ∧
      m.source.assets = plan.assets
        (FederationTurn.held (new.run calls).1 plan.id) := by
  rcases (consists_run_new calls).exists_module hMem with
    ⟨m, hm, hYields, hModule⟩
  have hEmpty : new.federation.Holds fun _ _ => [] := .empty
  have hSources := (holds_run hEmpty calls).sources m hm
  rw [hYields.id_eq] at hSources
  exact ⟨m, hModule, hYields.faithful,
    hYields.assets_eq hSources⟩

/- With no calls but these it has what it came with. -/
theorem assets_of_registers
    (hCalls : ∀ call ∈ calls, ∃ plan,
      call.2 = .register plan) :
    plan.assets
        (FederationTurn.held (new.run calls).1 plan.id) =
      plan.assets plan.held := by
  rcases exists_selected calls hMem with
    ⟨m, hModule, -, hAssets⟩
  rcases AssetFederation.mem_of_module?_ok hModule with
    ⟨hm, hId⟩
  have hModules := modules_run (s := new) hCalls
  have hUsed : plan.used.body ∈
      (new.run calls).2.federation.modules := by
    rw [hModules]
    exact List.mem_append_right _
      (List.mem_map_of_mem hMem)
  have hSame : plan.used.body = m :=
    AssetFederation.eq_of_id_eq (consists_run_new calls).ids
      hm hUsed (plan.holds_used.1.trans hId.symm)
  rw [← hAssets, ← hSame]
  exact plan.yields_used.assets_eq plan.holds_used.2

/- A search lists the assets that match, in natural order. -/
theorem step_search
    (files : FileView)
    (criteria : String) :
    ((new.run calls).2.step files
        (.search plan.id criteria)).1 =
      .listed (.ok (Asset.naturalSort
        ((plan.assets (FederationTurn.held (new.run calls).1
            plan.id)).filter
          (AssetMatcher.parse criteria).accepts))) := by
  rcases exists_selected calls hMem with
    ⟨m, hModule, -, hAssets⟩
  simp only [step, AssetFederation.search, hModule]
  rw [← hAssets]
  rfl

/- A look-up finds the first asset with the id. -/
theorem step_find
    (files : FileView)
    (id : String) :
    ((new.run calls).2.step files (.find plan.id id)).1 =
      .found (.ok ((plan.assets (FederationTurn.held
          (new.run calls).1 plan.id)).find?
        (·.id == id))) := by
  rcases exists_selected calls hMem with
    ⟨m, hModule, hFaithful, hAssets⟩
  simp only [step, AssetFederation.find, hModule]
  rw [← hAssets]
  exact congrArg (FederationAnswer.found ∘ Except.ok)
    (hFaithful.find id).1

end Answers

/- Both fail where there is no such module, and only there. -/
theorem unknownModule_iff
    (calls : List (FileView × FederationRequest))
    (files : FileView)
    (moduleId : String) :
    let r := new.run calls
    let ids := (FederationTurn.accepted r.1).map (·.id)
    (∀ criteria,
      (r.2.step files (.search moduleId criteria)).1 =
          .listed (.error (.unknownModule moduleId)) ↔
        moduleId ∉ ids) ∧
    ∀ id, (r.2.step files (.find moduleId id)).1 =
        .found (.error (.unknownModule moduleId)) ↔
      moduleId ∉ ids := by
  intro r ids
  by_cases hTaken : moduleId ∈ ids
  · rcases List.mem_map.1 hTaken with ⟨plan, hMem, rfl⟩
    refine ⟨fun criteria => ?_, fun id => ?_⟩
    · rw [step_search calls hMem]
      exact iff_of_false nofun (not_not_intro hTaken)
    · rw [step_find calls hMem]
      exact iff_of_false nofun (not_not_intro hTaken)
  · have hModule :=
      (consists_run_new calls).module?_of_notMem hTaken
    refine ⟨fun criteria => iff_of_true ?_ hTaken,
      fun id => iff_of_true ?_ hTaken⟩
    · simp only [r, step, AssetFederation.search, hModule]
      rfl
    · simp only [r, step, AssetFederation.find, hModule]
      rfl

/-
  After any calls of a federation: the modules are those
  taken in, in order.  Another is taken in if its id is none
  of theirs, and otherwise refused, which changes nothing.
  A search or a look-up in a module fails for want of it only
  if none with this id was taken in.  Otherwise a search
  lists in natural order the assets that match, and a look-up
  finds the first asset with an id.  What a search lists goes
  by the assets of this module alone, whatever the others
  are; with no calls but those that add modules, these are
  the assets that it came with.
-/
theorem search_selects
    (calls : List (FileView × FederationRequest)) :
    let r := new.run calls
    let s := r.2
    let accepted := FederationTurn.accepted r.1
    let ids := accepted.map (·.id)
    s.federation.moduleIds = ids ∧ ids.Nodup ∧
    (∀ files plan,
      ((s.step files (.register plan)).1 =
          .registered (.ok ()) ↔ plan.id ∉ ids) ∧
        (plan.id ∈ ids → s.step files (.register plan) =
          (.registered (.error (.duplicateModule plan.id)),
            s))) ∧
    (∀ files moduleId,
      (∀ criteria,
        (s.step files (.search moduleId criteria)).1 =
            .listed (.error (.unknownModule moduleId)) ↔
          moduleId ∉ ids) ∧
      ∀ id, (s.step files (.find moduleId id)).1 =
          .found (.error (.unknownModule moduleId)) ↔
        moduleId ∉ ids) ∧
    ∀ plan ∈ accepted,
      let assets :=
        plan.assets (FederationTurn.held r.1 plan.id)
      (∀ files criteria, ∃ result,
        (s.step files (.search plan.id criteria)).1 =
            .listed (.ok result) ∧
          Asset.NaturallySorted
            (assets.filter
              (AssetMatcher.parse criteria).accepts)
            result) ∧
      (∀ files id,
        (s.step files (.find plan.id id)).1 =
          .found (.ok (assets.find? (·.id == id)))) ∧
      (∀ calls', let r' := new.run calls'
        ∀ plan' ∈ FederationTurn.accepted r'.1,
          plan'.assets (FederationTurn.held r'.1 plan'.id) =
            assets →
          ∀ files files' criteria,
            (r'.2.step files' (.search plan'.id criteria)).1 =
              (s.step files (.search plan.id criteria)).1) ∧
      ((∀ call ∈ calls, ∃ plan, call.2 = .register plan) →
        assets = plan.assets plan.held) := by
  intro r s accepted ids
  have hConsists : s.federation.Consists accepted :=
    consists_run_new calls
  have hIds : s.federation.moduleIds = ids :=
    hConsists.moduleIds_eq
  refine ⟨hIds, hIds ▸ hConsists.ids, fun files plan => ?_,
    unknownModule_iff calls, fun plan hMem => ?_⟩
  · rcases step_register hConsists files plan with
      ⟨hTaken, hRefused⟩ | ⟨hFree, hDone⟩
    · refine ⟨?_, fun _ => hRefused⟩
      rw [hRefused]
      exact iff_of_false nofun (not_not_intro hTaken)
    · exact ⟨iff_of_true hDone hFree,
        fun hTaken => absurd hTaken hFree⟩
  · refine ⟨fun files criteria => ?_, step_find calls hMem,
      ?_, assets_of_registers calls hMem⟩
    · exact ⟨_, step_search calls hMem files criteria,
        Asset.naturallySorted_naturalSort _⟩
    · intro calls' r' plan' hMem' hSame files files' criteria
      rw [step_search calls hMem, step_search calls' hMem',
        hSame]

/- Assets with one name come in the order of their ids. -/
example :
    let asset id name : Asset :=
      { (default : Asset) with id := id, name := name }
    let plan : ModulePlan := ⟨"m", "m", .hardware,
      .fixed [asset "2" "b", asset "1" "b", asset "3" "a"],
      true, []⟩
    let files : FileView := fun _ => .missing
    let s := (new.run [(files, .register plan)]).2
    (match (s.step files (.search "m" "")).1 with
      | .listed (.ok result) => result.map (·.id)
      | _ => []) = ["3", "1", "2"] := by
  cbv

end FederationSession

end DeviceHub
