import DeviceHub.Hub.Configured
import DeviceHub.Proofs.Assets.Source
import DeviceHub.Proofs.Delivery.Router
import DeviceHub.Proofs.Except
import DeviceHub.Proofs.Hub.Verdicts

/-
  Hubs made from configurations.

  A hub can be made unless two modules have the same id.  It
  is clear from the configuration and the files which of its
  hooks will end well, and so which components will start.

  Key definitions include:
    * `HubConfig.Sound`
    * `HubConfig.FailsIn`
    * `HubConfig.roster`
    * `HubConfig.Made`

  Main statements:
    * `HubConfig.federation_ok_iff`
    * `HubConfig.made_of_assembly`
    * `HubConfig.Made.passes_supervisor_iff`
    * `HubConfig.Made.passes_iff`
-/

------------------------------------------------------------
-- Federations
------------------------------------------------------------

namespace DeviceHub

namespace HubConfig

theorem addModule_of_taken
    {f : AssetFederation}
    {m : AssetModule}
    (hTaken : m.id ∈ f.moduleIds) :
    ∃ e, addModule f m = .error e := by
  unfold addModule AssetFederation.register
  rw [if_pos (List.contains_iff_mem.2 hTaken)]
  exact ⟨_, rfl⟩

theorem addModule_of_free
    {f : AssetFederation}
    {m : AssetModule}
    (hFree : m.id ∉ f.moduleIds) :
    addModule f m = .ok ⟨f.modules ++ [m]⟩ := by
  unfold addModule AssetFederation.register
  rw [if_neg fun h => hFree (List.contains_iff_mem.1 h)]
  rfl

/- Modules are added as long as their ids are new. -/
theorem addModules_ok_iff
    {f f' : AssetFederation}
    {ms : List AssetModule}
    (hNodup : f.moduleIds.Nodup) :
    ms.foldlM addModule f = .ok f' ↔
      (f.moduleIds ++ ms.map (·.id)).Nodup ∧
        f' = ⟨f.modules ++ ms⟩ := by
  induction ms generalizing f with
  | nil =>
      rw [List.foldlM_nil, List.map_nil, List.append_nil,
        List.append_nil]
      exact ⟨fun h => ⟨hNodup, (Except.ok.inj h).symm⟩,
        fun h => congrArg Except.ok h.2.symm⟩
  | cons m rest ih =>
      rw [List.foldlM_cons]
      by_cases hTaken : m.id ∈ f.moduleIds
      · rcases addModule_of_taken hTaken with ⟨e, hError⟩
        rw [hError]
        refine iff_of_false nofun fun hAll => ?_
        exact (List.nodup_append.1 hAll.1).2.2 m.id hTaken m.id
          List.mem_cons_self rfl
      · have hIds : (⟨f.modules ++ [m]⟩ : AssetFederation
            ).moduleIds = f.moduleIds ++ [m.id] :=
          List.map_append
        have hNext : (⟨f.modules ++ [m]⟩ : AssetFederation
            ).moduleIds.Nodup := by
          rw [hIds, List.nodup_append]
          refine ⟨hNodup, by simp, ?_⟩
          rintro a ha b hb rfl
          exact hTaken (List.mem_singleton.1 hb ▸ ha)
        rw [addModule_of_free hTaken, ok_bind, ih hNext, hIds,
          List.append_assoc, List.append_assoc]
        exact Iff.rfl

/- The modules can be put together if their ids differ. -/
theorem federation_ok_iff
    {c : HubConfig}
    {f : AssetFederation} :
    c.federation = .ok f ↔
      (c.assets.map (·.id)).Nodup ∧
        f = ⟨c.assets.map c.assetModule⟩ := by
  have hIds : (c.assets.map c.assetModule).map (·.id) =
      c.assets.map (·.id) := by
    rw [List.map_map]
    rfl
  have hNone : AssetFederation.empty.moduleIds.Nodup := .nil
  unfold federation
  rw [addModules_ok_iff hNone, hIds]
  exact Iff.rfl

end HubConfig

end DeviceHub

------------------------------------------------------------
-- Sound Configurations
------------------------------------------------------------

namespace DeviceHub

namespace HubConfig

variable {c : HubConfig}
variable {files : FileView}
variable {h : Hub}

/- The kinds of payloads that can be decoded. -/
def knownKinds : List String :=
  CodecRegistry.standard.decoders.keys

/- The rules of choice name the only destination. -/
structure RoutesHome
    (c : HubConfig) : Prop where
  mapped : ∀ token id, c.router.mappings.get? token = some id →
    id = c.destination.id
  default : ∀ id, c.router.defaultDestination = some id →
    id = c.destination.id

/- The file of every asset section lists assets. -/
def AssetsListed
    (c : HubConfig)
    (files : FileView) : Prop :=
  ∀ s ∈ c.assets, AssetSource.IsListed files (c.assetPath s)

/- A configuration under which everything can start. -/
structure Sound
    (c : HubConfig)
    (files : FileView) : Prop where
  kinds : ∀ s ∈ c.pipelines, s.payloadKind ∈ knownKinds
  routing : c.RoutesHome
  assets : c.AssetsListed files

/- The parts that a start leaves in error. -/
def FailsIn
    (c : HubConfig)
    (files : FileView) : Part → Prop
  | .supervisor => ¬ c.Sound files
  | .pipeline place => ∃ s, c.pipelines[place]? = some s ∧
      s.payloadKind ∉ knownKinds
  | .router => ¬ c.RoutesHome
  | .destination _ => False
  | .batch => False
  | .assets => ¬ c.AssetsListed files
  | .assetModule id => ∃ s ∈ c.assets, s.id = id ∧
      ¬ AssetSource.IsListed files (c.assetPath s)

------------------------------------------------------------
-- Components of a Hub
------------------------------------------------------------

/- The components of all pipelines. -/
def pipelineTrees
    (c : HubConfig) : List (Tree Part) :=
  c.pipelines.mapIdx fun place s =>
    Equipment.pipelineTree place (.new (pipeline s))

/- The router with the only destination. -/
def routerTree
    (c : HubConfig) : Tree Part :=
  .node (.new .router Router.componentName .commandRouter)
    [Equipment.destinationTree 0 c.onlyDestination]

/- The asset modules. -/
def assetsTree
    (c : HubConfig) : Tree Part :=
  .node (.new .assets AssetFederation.componentName
    .assetModuleManager)
    (c.assets.map fun s =>
      Equipment.moduleTree (c.assetModule s))

/- All components, below a supervisor. -/
def supervisorTree
    (c : HubConfig) : Tree Part :=
  .node (.new .supervisor "fleetwire" .supervisor)
    (c.pipelineTrees ++
      [c.routerTree, Assembly.batchTree, c.assetsTree])

/- The children of the supervisor with their names. -/
def wings
    (c : HubConfig) : List (Part × String) :=
  c.pipelines.mapIdx (fun place s =>
    (.pipeline place, Pipeline.componentName (pipeline s))) ++
  [(.router, Router.componentName),
    (.batch, BatchEngine.componentName),
    (.assets, AssetFederation.componentName)]

/- All components with their names. -/
def roster
    (c : HubConfig) : List (Part × String) :=
  (.supervisor, "fleetwire") ::
  c.pipelines.mapIdx (fun place s =>
    (.pipeline place, Pipeline.componentName (pipeline s))) ++
  [(.router, Router.componentName),
    (.destination 0,
      Destination.componentName c.destination.id),
    (.batch, BatchEngine.componentName),
    (.assets, AssetFederation.componentName)] ++
  c.assets.map fun s =>
    (.assetModule s.id, AssetModule.componentName s.id)

/- The hub of a configuration, not started yet. -/
structure Made
    (c : HubConfig)
    (files : FileView)
    (h : Hub) : Prop where
  forest : h.forest = [c.supervisorTree]
  calls : h.calls = []
  registry : h.equipment.registry = .standard
  pipelines : h.equipment.pipelines =
    (c.pipelines.map pipeline).map Pipeline.new
  destinations : h.equipment.destinations =
    [c.onlyDestination]
  router : h.equipment.router = c.routing
  modules : h.equipment.assets.modules =
    c.assets.map c.assetModule
  files : h.equipment.files = files
  ids : (c.assets.map (·.id)).Nodup

theorem pipelineTrees_eq
    (c : HubConfig) :
    ((c.pipelines.map pipeline).map Pipeline.new).mapIdx
      Equipment.pipelineTree = c.pipelineTrees := by
  refine List.ext_getElem? fun i => ?_
  simp only [pipelineTrees, List.getElem?_mapIdx,
    List.getElem?_map, Option.map_map, Function.comp_def]

/- What is put together for a configuration. -/
theorem made_of_assembly
    {now : Instant}
    {eventId : Nat → String}
    {a : Assembly}
    (hOk : c.assembly files now eventId = .ok a) :
    c.Made files a.hub := by
  unfold assembly at hOk
  cases hAssets : c.federation with
  | error e =>
      rw [hAssets] at hOk
      cases hOk
  | ok f =>
      rw [hAssets] at hOk
      cases hOk
      rcases federation_ok_iff.1 hAssets with ⟨hIds, rfl⟩
      refine ⟨?_, rfl, rfl, rfl, rfl, rfl, rfl, rfl, hIds⟩
      have hModules :
          (c.assets.map c.assetModule).map
              Equipment.moduleTree =
            c.assets.map fun s =>
              Equipment.moduleTree (c.assetModule s) := by
        rw [List.map_map]
        rfl
      unfold supervisorTree assetsTree
      rw [← hModules, ← c.pipelineTrees_eq]
      exact congrArg (fun ts => [Tree.node _ ts])
        (List.append_assoc _ _ _)

theorem tags_pipelineTrees
    (c : HubConfig) :
    c.pipelineTrees.map Tree.tag =
      c.pipelines.mapIdx fun place s =>
        (.pipeline place,
          Pipeline.componentName (pipeline s)) := by
  refine List.ext_getElem? fun i => ?_
  simp only [pipelineTrees, List.getElem?_mapIdx,
    List.getElem?_map, Option.map_map]
  rfl

/- All parts of the supervisor, one after the other. -/
theorem parts_supervisorTree
    (c : HubConfig) :
    c.supervisorTree.parts =
      c.supervisorTree :: (c.pipelineTrees ++
        (c.routerTree ::
          Equipment.destinationTree 0 c.onlyDestination ::
          Assembly.batchTree :: c.assetsTree ::
          c.assets.map fun s =>
            Equipment.moduleTree (c.assetModule s))) := by
  have hPipelines : Tree.partsOfAll c.pipelineTrees =
      c.pipelineTrees := by
    refine Tree.partsOfAll_of_leaves fun t hMem => ?_
    rcases List.mem_mapIdx.1 hMem with ⟨i, hi, rfl⟩
    rfl
  have hModules : ∀ ss : List AssetSection,
      Tree.partsOfAll (ss.map fun s =>
        Equipment.moduleTree (c.assetModule s)) =
      ss.map fun s =>
        Equipment.moduleTree (c.assetModule s) := by
    intro ss
    refine Tree.partsOfAll_of_leaves fun t hMem => ?_
    rcases List.mem_map.1 hMem with ⟨s, hs, rfl⟩
    rfl
  have hOthers : Tree.partsOfAll
      [c.routerTree, Assembly.batchTree, c.assetsTree] =
      c.routerTree ::
        Equipment.destinationTree 0 c.onlyDestination ::
        Assembly.batchTree :: c.assetsTree ::
        (Tree.partsOfAll (c.assets.map fun s =>
          Equipment.moduleTree (c.assetModule s)) ++ []) :=
    rfl
  rw [List.append_nil, hModules] at hOthers
  have hParts : c.supervisorTree.parts =
      c.supervisorTree :: Tree.partsOfAll (c.pipelineTrees ++
        [c.routerTree, Assembly.batchTree, c.assetsTree]) :=
    rfl
  rw [hParts, Tree.partsOfAll_append, hPipelines, hOthers]

theorem tags_supervisorTree
    (c : HubConfig) :
    c.supervisorTree.parts.map Tree.tag = c.roster := by
  rw [parts_supervisorTree, List.map_cons, List.map_append,
    tags_pipelineTrees]
  simp only [List.map_cons, List.map_map, roster,
    List.append_assoc, List.cons_append, List.nil_append]
  rfl

/- Where a part of the supervisor comes from. -/
inductive PartOf
    (c : HubConfig) : Tree Part → Prop where
  | supervisor : PartOf c c.supervisorTree
  | pipeline
      {place : Nat}
      {s : PipelineSection}
      (hAt : c.pipelines[place]? = some s) :
      PartOf c (Equipment.pipelineTree place
        (.new (HubConfig.pipeline s)))
  | router : PartOf c c.routerTree
  | destination :
      PartOf c
        (Equipment.destinationTree 0 c.onlyDestination)
  | batch : PartOf c Assembly.batchTree
  | assets : PartOf c c.assetsTree
  | assetModule
      {s : AssetSection}
      (hMem : s ∈ c.assets) :
      PartOf c (Equipment.moduleTree (c.assetModule s))

theorem mem_parts_iff_partOf
    {u : Tree Part} :
    u ∈ c.supervisorTree.parts ↔ c.PartOf u := by
  rw [parts_supervisorTree]
  constructor
  · intro hMem
    rcases List.mem_cons.1 hMem with rfl | hMem
    · exact .supervisor
    rcases List.mem_append.1 hMem with hMem | hMem
    · rcases List.mem_mapIdx.1 hMem with ⟨place, hPlace, rfl⟩
      exact .pipeline (List.getElem?_eq_getElem hPlace)
    simp only [List.mem_cons, List.mem_map] at hMem
    rcases hMem with rfl | rfl | rfl | rfl | ⟨s, hs, rfl⟩
    · exact .router
    · exact .destination
    · exact .batch
    · exact .assets
    · exact .assetModule hs
  · intro hPart
    cases hPart with
    | supervisor => exact List.mem_cons_self
    | @pipeline place s hAt =>
        rcases List.getElem?_eq_some_iff.1 hAt with
          ⟨hPlace, rfl⟩
        exact List.mem_cons_of_mem _ (List.mem_append_left _
          (List.mem_mapIdx.2 ⟨place, hPlace, rfl⟩))
    | router => simp
    | destination => simp
    | batch => simp
    | assets => simp
    | assetModule hMem =>
        simp only [List.mem_cons, List.mem_append,
          List.mem_map]
        exact .inr (.inr (.inr (.inr (.inr (.inr
          ⟨_, hMem, rfl⟩)))))

/- Nothing has been started yet. -/
theorem fresh_supervisorTree
    (c : HubConfig) :
    c.supervisorTree.Fresh := by
  refine Tree.all_iff_parts.2 fun u hMem => ?_
  cases mem_parts_iff_partOf.1 hMem <;> exact ⟨rfl, rfl⟩

------------------------------------------------------------
-- Verdicts
------------------------------------------------------------

/- The only destination is all there is to route to. -/
theorem checked_routing_iff :
    c.routing.Checked ↔ c.RoutesHome := by
  have hContains : ∀ id,
      c.routing.destinations.contains id = true ↔
        id = c.destination.id := by
    intro id
    have hGet : c.routing.destinations.get? id =
        if id = c.destination.id then some 0 else none :=
      Dict.get?_insert .empty id c.destination.id 0
    unfold Dict.contains
    rw [hGet]
    split
    · rename_i hId
      exact iff_of_true rfl hId
    · rename_i hId
      exact iff_of_false nofun hId
  constructor
  · intro hChecked
    exact ⟨fun token id hMapped =>
        (hContains id).1 (hChecked.mapped token id hMapped),
      fun id hDefault =>
        (hContains id).1 (hChecked.default id hDefault)⟩
  · intro hHome
    exact ⟨nofun, fun token id hMapped =>
        (hContains id).2 (hHome.mapped token id hMapped),
      fun id hDefault =>
        (hContains id).2 (hHome.default id hDefault)⟩

namespace Made

variable (hMade : c.Made files h)

include hMade

/- Modules are found by their ids. -/
theorem module?_eq
    {s : AssetSection}
    (hMem : s ∈ c.assets) :
    h.equipment.assets.module? s.id =
      .ok (c.assetModule s) := by
  have hFound : ∀ ss : List AssetSection,
      (ss.map (·.id)).Nodup → s ∈ ss →
      (ss.map c.assetModule).find? (·.id == s.id) =
        some (c.assetModule s) := by
    intro ss hIds hs
    induction ss with
    | nil => cases hs
    | cons s' rest ih =>
        rw [List.map_cons, List.nodup_cons] at hIds
        rw [List.map_cons, List.find?_cons]
        rcases List.mem_cons.1 hs with rfl | hLater
        · rw [show ((c.assetModule s).id == s.id) = true from
            beq_self_eq_true s.id]
        · have hOther : (c.assetModule s').id ≠ s.id := by
            intro hSame
            exact hIds.1 (List.mem_map.2
              ⟨s, hLater, hSame.symm⟩)
          rw [beq_false_of_ne hOther]
          exact ih hIds.2 hLater
  unfold AssetFederation.module?
  rw [hMade.modules, hFound c.assets hMade.ids hMem]

theorem verdict_pipeline_iff
    {place : Nat}
    {s : PipelineSection}
    (hAt : c.pipelines[place]? = some s) :
    h.equipment.verdict (.pipeline place) .start = .ok () ↔
      s.payloadKind ∈ knownKinds := by
  have hThere : h.equipment.pipelines[place]? =
      some (.new (HubConfig.pipeline s)) := by
    rw [hMade.pipelines, List.getElem?_map,
      List.getElem?_map, hAt]
    rfl
  have hVerdict :
      h.equipment.verdict (.pipeline place) .start =
        ((Pipeline.new (HubConfig.pipeline s)).findDecoder
          .standard).1 := by
    unfold Equipment.verdict Equipment.hooks
    dsimp only [Component.new]
    unfold Equipment.pipelineHook
    rw [hThere, hMade.registry]
  rw [hVerdict, knownKinds, Dict.mem_keys_iff]
  unfold Pipeline.findDecoder
  cases hKind : CodecRegistry.standard.decoders.get?
      (Pipeline.new (HubConfig.pipeline s)).config.payloadKind
    with
  | none =>
      refine iff_of_false nofun fun hSome => ?_
      have hNone : CodecRegistry.standard.decoders.get?
          s.payloadKind = none := hKind
      rw [hNone] at hSome
      cases hSome
  | some d =>
      have hSome : CodecRegistry.standard.decoders.get?
          s.payloadKind = some d := hKind
      rw [hSome]
      exact iff_of_true rfl rfl

theorem verdict_router_iff :
    h.equipment.verdict .router .start = .ok () ↔
      c.RoutesHome := by
  have hVerdict : h.equipment.verdict .router .start =
      h.equipment.router.check := rfl
  rw [hVerdict, hMade.router, Router.check_ok_iff,
    checked_routing_iff]

theorem verdict_module_iff
    {s : AssetSection}
    (hMem : s ∈ c.assets) :
    h.equipment.verdict (.assetModule s.id) .start =
        .ok () ↔
      AssetSource.IsListed files (c.assetPath s) := by
  have hVerdict :
      h.equipment.verdict (.assetModule s.id) .start =
        ((c.assetModule s).loadSource files).1 := by
    unfold Equipment.verdict Equipment.hooks
    dsimp only [Component.new]
    unfold Equipment.moduleHook
    rw [hMade.module?_eq hMem, hMade.files]
  rw [hVerdict, AssetSource.isListed_iff]
  have hReload : (c.assetModule s).reload files =
      ((AssetSource.load files (c.assetPath s)).map
        (AssetSource.file (c.assetPath s))).map fun source =>
          { c.assetModule s with
            source := source }.renewCache := rfl
  unfold AssetModule.loadSource
  rw [hReload]
  cases AssetSource.load files (c.assetPath s) with
  | error e => exact iff_of_false nofun nofun
  | ok assets => exact iff_of_true rfl ⟨assets, rfl⟩

theorem verdict_destination
    (place : Nat)
    (hook : Hook) :
    h.equipment.verdict (.destination place) hook =
      .ok () := by
  unfold Equipment.verdict Equipment.hooks
  dsimp only [Component.new]
  unfold Equipment.destinationHook
  rw [hMade.destinations]
  cases place with
  | zero => cases hook <;> rfl
  | succ place => rfl

/- Every component stops well. -/
theorem verdict_stop
    (part : Part) :
    h.equipment.verdict part .stop = .ok () := by
  cases part with
  | destination place =>
      exact hMade.verdict_destination place .stop
  | pipeline place =>
      unfold Equipment.verdict Equipment.hooks
      dsimp only [Component.new]
      unfold Equipment.pipelineHook
      cases h.equipment.pipelines[place]? <;> rfl
  | assetModule id =>
      unfold Equipment.verdict Equipment.hooks
      dsimp only [Component.new]
      unfold Equipment.moduleHook
      cases h.equipment.assets.module? id <;> rfl
  | supervisor => rfl
  | router => rfl
  | batch => rfl
  | assets => rfl

/- The router starts well, or fails by its rules. -/
theorem passes_router_iff :
    c.routerTree.Passes h.equipment.verdict .start ↔
      c.RoutesHome := by
  refine Tree.all_node_iff.trans ?_
  refine (and_congr_left' hMade.verdict_router_iff).trans ?_
  refine and_iff_left fun t hMem => ?_
  rw [List.mem_singleton.1 hMem]
  exact Tree.passes_leaf_iff.2
    (hMade.verdict_destination 0 .start)

/- The modules start well if their files list assets. -/
theorem passes_assets_iff :
    c.assetsTree.Passes h.equipment.verdict .start ↔
      c.AssetsListed files := by
  refine Tree.all_node_iff.trans ?_
  refine (and_iff_right rfl).trans ?_
  rw [List.forall_mem_map]
  exact forall₂_congr fun s hMem =>
    Tree.passes_leaf_iff.trans
      (hMade.verdict_module_iff hMem)

/- All starts well if the configuration is sound. -/
theorem passes_supervisor_iff :
    c.supervisorTree.Passes h.equipment.verdict .start ↔
      c.Sound files := by
  constructor
  · intro hPasses
    have hPart : ∀ {u}, c.PartOf u →
        u.Passes h.equipment.verdict .start := by
      intro u hPart
      rcases Tree.mem_parts_iff.1
          (mem_parts_iff_partOf.2 hPart) with ⟨p, hp⟩
      exact Tree.All.part hPasses hp
    refine ⟨fun s hMem => ?_,
      hMade.passes_router_iff.1 (hPart .router),
      hMade.passes_assets_iff.1 (hPart .assets)⟩
    rcases List.mem_iff_getElem?.1 hMem with ⟨place, hAt⟩
    exact (hMade.verdict_pipeline_iff hAt).1
      (Tree.passes_leaf_iff.1 (hPart (.pipeline hAt)))
  · intro hSound
    refine Tree.all_node_iff.2 ⟨rfl, fun t hMem => ?_⟩
    rcases List.mem_append.1 hMem with hMem | hMem
    · rcases List.mem_mapIdx.1 hMem with ⟨place, hPlace, rfl⟩
      refine Tree.passes_leaf_iff.2 ?_
      exact (hMade.verdict_pipeline_iff
        (List.getElem?_eq_getElem hPlace)).2
          (hSound.kinds _ (List.getElem_mem hPlace))
    · simp only [List.mem_cons, List.not_mem_nil,
        or_false] at hMem
      rcases hMem with rfl | rfl | rfl
      · exact hMade.passes_router_iff.2 hSound.routing
      · exact Tree.passes_leaf_iff.2 rfl
      · exact hMade.passes_assets_iff.2 hSound.assets

/- A part starts well unless it is one that fails. -/
theorem passes_iff
    {u : Tree Part}
    (hPart : c.PartOf u) :
    u.Passes h.equipment.verdict .start ↔
      ¬ c.FailsIn files u.self.label := by
  cases hPart with
  | supervisor =>
      exact hMade.passes_supervisor_iff.trans not_not.symm
  | @pipeline place s hAt =>
      refine Tree.passes_leaf_iff.trans
        ((hMade.verdict_pipeline_iff hAt).trans ?_)
      constructor
      · rintro hKnown ⟨s', hAt', hUnknown⟩
        have hHere : c.pipelines[place]? = some s' := hAt'
        rw [hAt] at hHere
        cases hHere
        exact hUnknown hKnown
      · intro hFits
        exact not_not.1 fun hUnknown =>
          hFits ⟨s, hAt, hUnknown⟩
  | router =>
      exact hMade.passes_router_iff.trans not_not.symm
  | destination =>
      exact iff_of_true (Tree.passes_leaf_iff.2
        (hMade.verdict_destination 0 .start)) id
  | batch =>
      exact iff_of_true (Tree.passes_leaf_iff.2 rfl) id
  | assets =>
      exact hMade.passes_assets_iff.trans not_not.symm
  | @assetModule s hMem =>
      refine Tree.passes_leaf_iff.trans
        ((hMade.verdict_module_iff hMem).trans ?_)
      constructor
      · rintro hListed ⟨s', hMem', hId, hNot⟩
        have hSame := List.inj_on_of_nodup_map hMade.ids
          hMem' hMem hId
        exact hNot (hSame ▸ hListed)
      · intro hFits
        exact not_not.1 fun hNot =>
          hFits ⟨s, hMem, rfl, hNot⟩

end Made

end HubConfig

end DeviceHub
