import DeviceHub.CommandLine.Run
import DeviceHub.Proofs.Hub.Configured

/-
  What a check of a configuration comes to.

  A hub that is made of a sound configuration starts as a
  whole and stops again.  In any other, exactly the parts
  that the configuration gets wrong are in error, with those
  above them; the others start all the same.

  Main statements:
    * `HubConfig.Made.call_start`
    * `HubConfig.Made.call_stop`
    * `CommandLine.check_accepts_sound`
-/

------------------------------------------------------------
-- Starting and Stopping
------------------------------------------------------------

namespace DeviceHub

namespace Hub

/- Without calls that wait, nothing goes on. -/
theorem settle_of_rest
    {h : Hub}
    (hRest : h.calls = []) :
    h.settle = h := by
  unfold settle hasNamed
  rw [hRest]
  rfl

/-
  A call of the only root goes by verdicts, and leaves the
  equipment with its plan.
-/
theorem call_root
    {h : Hub}
    {e : Equipment}
    {t : Tree Part}
    (hForest : h.forest = [t])
    (hRest : h.calls = [])
    (hPlan : e.SamePlan h.equipment)
    (action : LifecycleAction) :
    let o := t.call (Tree.verdictHooks e.verdict) action ()
    ∃ e', e.SamePlan e' ∧
      h.call t.self.label action = some (o.result, { h with
        forest := [o.tree]
        equipment := e' }) := by
  intro o
  have hSettled : ∀ c hook e', e.SamePlan e' →
      (Equipment.hooks c hook e').1 =
          e.verdict c.label hook ∧
        e.SamePlan (Equipment.hooks c hook e').2 :=
    fun c hook _ hSame => e.hooks_settled c hook hSame
  have hAlike := Tree.alike_verdicts hSettled action t hPlan
  refine ⟨_, hAlike.state, ?_⟩
  refine (congrArg (Option.map _)
    (control_root hForest action)).trans ?_
  refine congrArg some (Prod.ext hAlike.result ?_)
  refine Eq.trans (settle_of_rest ?_) ?_
  · exact hRest
  · rw [hAlike.tree]

end Hub

namespace HubConfig

variable {c : HubConfig}
variable {files : FileView}
variable {h : Hub}

/- The supervisor after a start. -/
def launchedTree
    (c : HubConfig)
    (h : Hub) : Tree Part :=
  Tree.launched h.equipment.verdict c.supervisorTree

/- All components are there, under their names. -/
theorem tags_launched :
    (c.launchedTree h).parts.map Tree.tag = c.roster :=
  (Tree.tags_of_parts (Tree.each_turn_start
    (Tree.verdictHooks h.equipment.verdict)
      c.supervisorTree ())).trans c.tags_supervisorTree

/- The supervisor has the wings that it was made with. -/
theorem tags_wings :
    (c.launchedTree h).children.map Tree.tag = c.wings := by
  have hChildren : (c.launchedTree h).children =
      (c.pipelineTrees ++ [c.routerTree, Assembly.batchTree,
        c.assetsTree]).map
          (Tree.launched h.equipment.verdict) :=
    c.fresh_supervisorTree.children_launched _
  have hTags : ∀ t : Tree Part,
      (Tree.tag ∘ Tree.launched h.equipment.verdict) t =
        t.tag :=
    Tree.tag_launched h.equipment.verdict
  rw [hChildren, List.map_map, funext hTags, List.map_append,
    tags_pipelineTrees]
  rfl

/- A start that fails does so over the first bad wing. -/
theorem error_of_wing
    {e : LifecycleError}
    (hError : (Tree.start
      (Tree.verdictHooks h.equipment.verdict)
        c.supervisorTree ()).result = .error e) :
    (c.launchedTree h).self.lastError = some e.message ∧
      ∃ u reason,
        (c.launchedTree h).children.find?
          (·.status = .error) = some u ∧
        u.self.lastError = some reason ∧
        e = .childFailed "fleetwire" u.self.name reason :=
  c.fresh_supervisorTree.error_of_child _ rfl hError

theorem label_launched :
    (c.launchedTree h).self.label = .supervisor :=
  congrArg Prod.fst (Tree.tag_launched _ c.supervisorTree)

namespace Made

variable (hMade : c.Made files h)

include hMade

/- Where each part of the supervisor is after a start. -/
theorem status_iff
    {u : Tree Part}
    (hMem : u ∈ (c.launchedTree h).parts) :
    (u.status = .error ↔ c.FailsIn files u.self.label) ∧
      (u.status = .started ↔
        ¬ c.FailsIn files u.self.label) := by
  rcases Tree.mem_parts_launched _ c.fresh_supervisorTree hMem
    with ⟨t, hPart, hFresh, rfl⟩
  have hLabel : (Tree.launched h.equipment.verdict t
      ).self.label = t.self.label :=
    congrArg Prod.fst (Tree.tag_launched _ t)
  have hPasses :=
    hMade.passes_iff (mem_parts_iff_partOf.1 hPart)
  have hStatus :=
    Tree.status_launched h.equipment.verdict hFresh
  rw [hLabel]
  by_cases hFails : c.FailsIn files t.self.label
  · have hError :=
      (hStatus.2 fun h => hPasses.1 h hFails).1
    rw [hError]
    exact ⟨iff_of_true rfl hFails,
      iff_of_false nofun fun h => h hFails⟩
  · have hStarted := hStatus.1 (hPasses.2 hFails)
    rw [hStarted]
    exact ⟨iff_of_false nofun hFails, iff_of_true rfl hFails⟩

theorem call_start :
    ∃ result h',
      h.call .supervisor .start = some (result, h') ∧
      h'.forest = [c.launchedTree h] ∧
      h'.calls = [] ∧
      h.equipment.SamePlan h'.equipment ∧
      result = (Tree.start
        (Tree.verdictHooks h.equipment.verdict)
          c.supervisorTree ()).result := by
  rcases Hub.call_root hMade.forest hMade.calls
      (.refl h.equipment) .start with ⟨e', hPlan, hCall⟩
  exact ⟨_, _, hCall, rfl, hMade.calls, hPlan, rfl⟩

/- The start of a hub succeeds if all is sound. -/
theorem result_ok_iff :
    (∃ status, (Tree.start
      (Tree.verdictHooks h.equipment.verdict)
        c.supervisorTree ()).result = .ok status) ↔
      c.Sound files := by
  rw [← hMade.passes_supervisor_iff,
    ← Tree.start_ok_iff _ c.fresh_supervisorTree]
  constructor
  · rintro ⟨status, hOk⟩
    rw [hOk, c.fresh_supervisorTree.started_of_ok _ hOk]
  · exact fun hOk => ⟨_, hOk⟩

/- What a sound configuration has started can be stopped. -/
theorem call_stop
    (hSound : c.Sound files)
    {h' : Hub}
    (hForest : h'.forest = [c.launchedTree h])
    (hCalls : h'.calls = [])
    (hPlan : h.equipment.SamePlan h'.equipment) :
    ∃ h'' t,
      h'.call .supervisor .stop =
        some (.ok .terminated, h'') ∧
      h''.forest = [t] ∧
      t.parts.map Tree.tag = c.roster ∧
      ∀ u ∈ t.parts, u.status = .terminated := by
  have hStarted : (c.launchedTree h).All
      fun d => d.status = .started :=
    (hMade.passes_supervisor_iff.2 hSound).all_started _
      c.fresh_supervisorTree
  have hStops : (c.launchedTree h).Passes
      h.equipment.verdict .stop :=
    fun _ d _ => hMade.verdict_stop d.label
  rcases Tree.stop_verdicts _ hStarted hStops with
    ⟨hOk, hTerminated⟩
  rcases Hub.call_root hForest hCalls hPlan .stop with
    ⟨e', -, hCall⟩
  rw [label_launched] at hCall
  refine ⟨_, _, hCall.trans (congrArg some
    (Prod.ext hOk rfl)), rfl, ?_, ?_⟩
  · exact (Tree.tags_of_parts
      (Tree.each_turn_stop _ _ _)).trans tags_launched
  · exact Tree.all_iff_parts.1 hTerminated

end Made

end HubConfig

end DeviceHub

------------------------------------------------------------
-- Checking
------------------------------------------------------------

namespace DeviceHub

namespace CommandLine

open HubConfig

/- A check says that all is well if it is. -/
theorem check_done_iff
    {c : HubConfig}
    {files : FileView}
    {h : Hub}
    (hMade : c.Made files h) :
    (check h).ending = .done ↔ c.Sound files := by
  rcases hMade.call_start with
    ⟨result, h', hCall, hForest, hCalls, hPlan, rfl⟩
  have hStatus : h'.status .supervisor =
      (c.launchedTree h).status := by
    rw [← label_launched (c := c) (h := h)]
    exact Hub.status_root hForest
  have hOk := hMade.result_ok_iff
  cases hResult : (Tree.start
      (Tree.verdictHooks h.equipment.verdict)
        c.supervisorTree ()).result with
  | ok status =>
      rw [hResult] at hCall hOk
      have hSound : c.Sound files := hOk.1 ⟨status, rfl⟩
      rcases hMade.call_stop hSound hForest hCalls hPlan with
        ⟨h'', t, hStop, -⟩
      have hUp : h'.status .supervisor = .started := by
        rw [hStatus]
        exact (Tree.status_launched _
          c.fresh_supervisorTree).1
            (hMade.passes_supervisor_iff.2 hSound)
      refine iff_of_true ?_ hSound
      simp only [check, order, hCall, shutDown, hUp, hStop,
        if_true]
  | error e =>
      rw [hResult] at hCall hOk
      have hNot : ¬ c.Sound files := by
        intro hSound
        rcases hOk.2 hSound with ⟨status, hSame⟩
        cases hSame
      have hDown : h'.status .supervisor = .error := by
        rw [hStatus]
        exact ((Tree.status_launched _
          c.fresh_supervisorTree).2 fun hPasses =>
            hNot (hMade.passes_supervisor_iff.1 hPasses)).1
      refine iff_of_false ?_ hNot
      simp [check, order, hCall, shutDown, hDown]

/- What is made for a configuration, or why nothing is. -/
theorem hub_cases
    (s : Surroundings)
    (c : HubConfig) :
    (∃ h, hub s c = .ok h ∧ c.Made s.files h) ∨
    (∃ e, hub s c = .error e) ∧
      ¬ (c.assets.map (·.id)).Nodup := by
  unfold hub
  cases hAssembly : c.assembly s.files s.now toString with
  | ok a => exact .inl ⟨a.hub, rfl, made_of_assembly hAssembly⟩
  | error e =>
      refine .inr ⟨⟨e, rfl⟩, fun hIds => ?_⟩
      unfold assembly at hAssembly
      rw [federation_ok_iff.2 ⟨hIds, rfl⟩] at hAssembly
      cases hAssembly

/- A check goes through the hub that is made. -/
theorem checkConfig_of_ok
    {s : Surroundings}
    {c : HubConfig}
    {h : Hub}
    (hChannel : c.hasChannel = true)
    (hHub : hub s c = .ok h) :
    checkConfig s c = check h := by
  unfold checkConfig
  rw [if_pos hChannel, hHub]

/- Where none is made, the check says why. -/
theorem checkConfig_of_error
    {s : Surroundings}
    {c : HubConfig}
    {e : String}
    (hChannel : c.hasChannel = true)
    (hHub : hub s c = .error e) :
    checkConfig s c = .failed e := by
  unfold checkConfig
  rw [if_pos hChannel, hHub]

/-
  Where the channel that is asked for can be made, a hub is
  made unless two asset sections have the same id.  It starts
  if the configuration is sound.  If it does not, exactly
  those parts are in error that the configuration gets wrong,
  and the supervisor names the first of its children among
  them.  If it does, it can be stopped, and nothing is left
  running.  The check accepts just these configurations.
-/
theorem check_accepts_sound
    {c : HubConfig}
    (hChannel : c.hasChannel = true)
    (s : Surroundings) :
    ((∃ e, hub s c = .error e) ↔
      ¬ (c.assets.map (·.id)).Nodup) ∧
    (∀ h, hub s c = .ok h → ∃ result h' t,
      h.call .supervisor .start = some (result, h') ∧
      h'.forest = [t] ∧
      t.parts.map Tree.tag = c.roster ∧
      t.children.map Tree.tag = c.wings ∧
      ((∃ status, result = .ok status) ↔
        c.Sound s.files) ∧
      (∀ u ∈ t.parts,
        (u.status = .error ↔
          c.FailsIn s.files u.self.label) ∧
        (u.status = .started ↔
          ¬ c.FailsIn s.files u.self.label)) ∧
      (∀ e, result = .error e →
        t.self.lastError = some e.message ∧
        ∃ u reason,
          t.children.find? (·.status = .error) = some u ∧
          u.self.lastError = some reason ∧
          e = .childFailed "fleetwire" u.self.name reason) ∧
      (c.Sound s.files → ∃ h'' t',
        h'.call .supervisor .stop =
          some (.ok .terminated, h'') ∧
        h''.forest = [t'] ∧
        t'.parts.map Tree.tag = c.roster ∧
        ∀ u ∈ t'.parts, u.status = .terminated)) ∧
    ((checkConfig s c).ending = .done ↔
      (c.assets.map (·.id)).Nodup ∧ c.Sound s.files) := by
  rcases hub_cases s c with
    ⟨h, hOk, hMade⟩ | ⟨⟨e, hError⟩, hSame⟩
  · rw [checkConfig_of_ok hChannel hOk, hOk]
    refine ⟨iff_of_false ?_ fun h => h hMade.ids, ?_, ?_⟩
    · rintro ⟨e, hSame⟩
      cases hSame
    · intro h₁ hSame
      cases hSame
      rcases hMade.call_start with
        ⟨result, h', hCall, hForest, hCalls, hPlan, rfl⟩
      exact ⟨_, h', c.launchedTree h, hCall, hForest,
        tags_launched, tags_wings, hMade.result_ok_iff,
        fun u hMem => hMade.status_iff hMem,
        fun e hError => error_of_wing hError, fun hSound =>
          hMade.call_stop hSound hForest hCalls hPlan⟩
    · exact (check_done_iff hMade).trans
        (and_iff_right hMade.ids).symm
  · rw [checkConfig_of_error hChannel hError, hError]
    refine ⟨iff_of_true ⟨e, rfl⟩ hSame, ?_, ?_⟩
    · intro h hHub
      cases hHub
    · refine iff_of_false ?_ fun h => hSame h.1
      intro hDone
      cases hDone

/- One pipeline, of a kind that cannot be decoded. -/
def morseConfig : HubConfig :=
  { HubConfig.standard with
    pipelines := [⟨"line", "morse", false⟩] }

/-
  The pipeline is in error and so is the supervisor, but the
  router is started, and the check does not accept this.
-/
theorem check_accepts_sound_morse :
    let s : Surroundings :=
      ⟨fun _ => .missing, .empty, default⟩
    morseConfig.hasChannel = true ∧
      (checkConfig s morseConfig).ending ≠ .done ∧
      ∃ h result h' t,
        hub s morseConfig = .ok h ∧
        h.call .supervisor .start = some (result, h') ∧
        h'.forest = [t] ∧
        (∀ status, result ≠ .ok status) ∧
        ∀ u ∈ t.parts,
          (u.self.label = .pipeline 0 → u.status = .error) ∧
          (u.self.label = .router → u.status = .started) := by
  intro s
  have hChannel : morseConfig.hasChannel = true := by decide
  have hUnknown : "morse" ∉ knownKinds := by decide
  have hHome : morseConfig.RoutesHome := ⟨nofun, nofun⟩
  have hNot : ¬ morseConfig.Sound s.files := fun hSound =>
    hUnknown (hSound.kinds _ List.mem_cons_self)
  rcases check_accepts_sound hChannel s with
    ⟨-, hStarts, hDone⟩
  refine ⟨hChannel, fun h => hNot (hDone.1 h).2, ?_⟩
  rcases hStarts _ rfl with
    ⟨result, h', t, hCall, hForest, -, -, hOk, hStatus, -⟩
  refine ⟨_, result, h', t, rfl, hCall, hForest, ?_, ?_⟩
  · intro status hResult
    exact hNot (hOk.1 ⟨status, hResult⟩)
  · intro u hMem
    have hHere := hStatus u hMem
    constructor
    · intro hLabel
      rw [hLabel] at hHere
      exact hHere.1.2 ⟨_, rfl, hUnknown⟩
    · intro hLabel
      rw [hLabel] at hHere
      exact hHere.2.2 fun hFails => hFails hHome

/- A file that asks for more places than a channel can have. -/
def oversizedFile : String :=
  "[destination]\nchannel_capacity = 2305843009213693952\n"

/- Surroundings with this file, and no other. -/
def oversizedSurroundings : Surroundings :=
  { files := fun path =>
      if path = defaultConfig then
        .content oversizedFile.toUTF8.toList
      else
        .missing
    environment := .empty
    now := default }

/- This file has no asset sections, and all in it is sound. -/
theorem check_breaks_off :
    ∃ c, HubConfig.load oversizedSurroundings.files
        defaultConfig none = .ok c ∧
      (c.assets.map (·.id)).Nodup ∧
      c.Sound oversizedSurroundings.files ∧
      (run oversizedSurroundings ["check"]).toOption.map
        (·.ending) = some .brokenOff := by
  have hEmpty : (HubConfig.load oversizedSurroundings.files
      defaultConfig none).toOption.any (fun c =>
        c.pipelines.isEmpty && c.assets.isEmpty &&
        c.router.mappings.entries.isEmpty &&
        c.router.defaultDestination.isNone) = true := by
    decide +kernel
  have hRun : (run oversizedSurroundings ["check"]
      ).toOption.map (·.ending) = some .brokenOff := by
    decide +kernel
  cases hLoad : HubConfig.load oversizedSurroundings.files
      defaultConfig none with
  | error e =>
      rw [hLoad] at hEmpty
      cases hEmpty
  | ok c =>
      rw [hLoad] at hEmpty
      simp only [Except.toOption, Option.any_some,
        Bool.and_eq_true, List.isEmpty_iff,
        Option.isNone_iff_eq_none] at hEmpty
      rcases hEmpty with
        ⟨⟨⟨hPipelines, hAssets⟩, hMappings⟩, hDefault⟩
      refine ⟨c, rfl, ?_, ⟨?_, ⟨?_, ?_⟩, ?_⟩, hRun⟩
      · rw [hAssets]
        exact .nil
      · intro p hMem
        rw [hPipelines] at hMem
        cases hMem
      · intro token id hMapped
        have hMem := Dict.mem_entries_iff.2 hMapped
        rw [hMappings] at hMem
        cases hMem
      · intro id hHome
        rw [hDefault] at hHome
        cases hHome
      · intro d hMem
        rw [hAssets] at hMem
        cases hMem

end CommandLine

end DeviceHub
