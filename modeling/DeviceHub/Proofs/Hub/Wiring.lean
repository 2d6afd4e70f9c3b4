import DeviceHub.Proofs.Delivery.Router
import DeviceHub.Proofs.Hub.Session

/-
  Routers and the destinations that they own.

  Whatever moves are made, the destinations of a router are
  those that were accepted, in order, and it owns a component
  for each of them.  A router that starts has been checked.

  Key definitions include:
    * `DeliveryNote.registered?`
    * `Hub.HasRouter`
    * `Hub.SameRouting`
    * `DeliverySession.Wired`

  Main statements:
    * `Hub.HasRouter.checked_of_start`
    * `DeliverySession.Wired.step`
    * `DeliverySession.Wired.run`
-/

------------------------------------------------------------
-- Hubs with a Router
------------------------------------------------------------

namespace DeviceHub

namespace Hub

variable {h h' : Hub}
variable {c : Component Part}
variable {ts : List (Tree Part)}

/- A hub that is its router, with the components below. -/
structure HasRouter
    (h : Hub)
    (c : Component Part)
    (ts : List (Tree Part)) : Prop where
  forest : h.forest = [.node c ts]
  label : c.label = .router
  canPause : c.canPause = false
  unpaused : c.status ≠ .paused

namespace HasRouter

/- A new component comes after those that are there. -/
theorem addBelowRouter_eq
    (hRouter : h.HasRouter c ts)
    (child : Tree Part) :
    h.addBelowRouter child = [.node c (ts ++ [child])] := by
  simp [addBelowRouter, hRouter.forest, Tree.visitFirst?,
    Tree.visit?, hRouter.label, Tree.addChild, Tree.self,
    Tree.children]

/- A call leaves the router with its components. -/
theorem controlled
    (hRouter : h.HasRouter c ts)
    {part : Part}
    {action : LifecycleAction}
    {result : Except LifecycleError Status}
    (hControl : h.control part action = some (result, h')) :
    ∃ c' ts', h'.HasRouter c' ts' ∧
      ts'.map Tree.tag = ts.map Tree.tag := by
  rcases controlled_of_control hControl with
    ⟨i, p, t, u, hControlled⟩
  have hTree := hControlled.tree
  rw [hRouter.forest] at hTree
  have hRoot : i = 0 ∧ t = .node c ts := by
    cases i with
    | zero =>
        cases hTree
        exact ⟨rfl, rfl⟩
    | succ i => cases hTree
  rcases hRoot with ⟨rfl, rfl⟩
  have hTurns := Tree.Each.replace (fun _ => .rest)
    hControlled.here (Tree.each_turn_call Equipment.hooks
      action u h.equipment)
  have hUnpaused : ((Tree.node c ts).replace
      (u.call Equipment.hooks action h.equipment).tree p
        ).self.status ≠ .paused := by
    cases p with
    | nil =>
        cases hControlled.here
        exact Tree.unpaused_call Equipment.hooks action ts _
          hRouter.canPause hRouter.unpaused
    | cons j p => exact hRouter.unpaused
  have hForest : h'.forest = [(Tree.node c ts).replace
      (u.call Equipment.hooks action h.equipment).tree p] := by
    rw [hControlled.hub, hRouter.forest]
    rfl
  generalize (Tree.node c ts).replace
    (u.call Equipment.hooks action h.equipment).tree p = t'
    at hTurns hUnpaused hForest
  cases t' with
  | node c' ts' =>
      have hSelf := hTurns []
      rw [Tree.component?_nil, Tree.component?_nil] at hSelf
      have hTurn : c.Turn c' := by
        cases hSelf with
        | some hTurn => exact hTurn
      have hCanPause : c'.canPause = c.canPause := by
        cases hTurn <;> rfl
      exact ⟨c', ts', ⟨hForest,
        hTurn.label_eq.trans hRouter.label,
        hCanPause.trans hRouter.canPause, hUnpaused⟩,
        Tree.tags_of_forall₂ hTurns.children⟩

/- A router that starts has been checked. -/
theorem checked_of_start
    (hRouter : h.HasRouter c ts)
    {status : Status}
    (hControl : h.control .router .start =
      some (.ok status, h')) :
    h.equipment.router.Checked := by
  have hRoot := control_root hRouter.forest .start
  rw [Tree.self, hRouter.label, hControl] at hRoot
  have hOk : (Tree.start Equipment.hooks (.node c ts)
      h.equipment).result = .ok status :=
    (congrArg (·.1) (Option.some.inj hRoot)).symm
  have hHooks : ∀ (d : Component Part) hook e,
      e.router = h.equipment.router →
      (Equipment.hooks d hook e).2.router =
        h.equipment.router := by
    intro d hook e he
    exact (Equipment.sameFixtures_hooks d hook e).router.trans
      he
  rcases Tree.hook_of_start_ok
      (Q := fun e => e.router = h.equipment.router) hHooks
      rfl hRouter.unpaused hOk with ⟨e, he, hHook⟩
  have hLabel : (c.record .starting "start requested").label =
      .router := hRouter.label
  simp only [Equipment.hooks, hLabel, he] at hHook
  exact Router.check_ok_iff.1 hHook

end HasRouter

/- Hubs that route alike, with the same components. -/
structure SameRouting
    (h h' : Hub) : Prop where
  forest : h'.forest = h.forest
  router : h'.equipment.router = h.equipment.router
  ids : h'.equipment.destinations.map (·.id) =
    h.equipment.destinations.map (·.id)

theorem SameRouting.refl
    (h : Hub) :
    h.SameRouting h :=
  ⟨rfl, rfl, rfl⟩

/- A destination with its id routes as it did. -/
theorem sameRouting_put
    {place : Nat}
    {d d' : Destination}
    (hAt : h.equipment.destinations[place]? = some d)
    (hId : d'.id = d.id) :
    h.SameRouting (h.equip (·.setDestination place d')) where
  forest := rfl
  router := rfl
  ids := by
    refine List.ext_getElem? ?_
    intro j
    rw [List.getElem?_map, List.getElem?_map,
      getElem?_setDestination hAt]
    split
    · rename_i hj
      rw [hj, hAt, Option.map_some, Option.map_some, hId]
    · rfl

theorem sameRouting_deliver
    (h : Hub)
    (via : Option Nat)
    (ticket : Nat)
    (hardwareId : String)
    (i : CommandInvocation) :
    h.SameRouting (h.deliver via ticket hardwareId i).2 := by
  have hCases := h.deliver_cases via ticket hardwareId i
  generalize h.deliver via ticket hardwareId i = r at hCases ⊢
  cases hCases with
  | nowhere => exact .refl h
  | failed hReaches =>
      exact sameRouting_put hReaches.destination (by simp)
  | taken hReaches =>
      exact sameRouting_put hReaches.destination rfl
  | refused hReaches =>
      exact sameRouting_put hReaches.destination rfl
  | held hReaches =>
      exact sameRouting_put hReaches.destination rfl

end Hub

end DeviceHub

------------------------------------------------------------
-- Moves That Change No Rules
------------------------------------------------------------

namespace DeviceHub

namespace DeliverySession

theorem sameRouting_serve
    (s : DeliverySession)
    (place : Nat) :
    s.hub.SameRouting (s.serve place).2.hub := by
  unfold serve
  split
  · exact .refl s.hub
  · rename_i d hAt
    split
    · exact .refl s.hub
    · split
      · exact .refl s.hub
      · exact Hub.sameRouting_put hAt
          (Destination.id_conclude _ _ _)

theorem sameRouting_handle
    (s : DeliverySession)
    (place : Nat)
    (event : TransportEvent) :
    s.hub.SameRouting (s.handle place event).hub := by
  unfold handle
  split
  · exact .refl s.hub
  · rename_i d hAt
    exact Hub.sameRouting_put hAt rfl

theorem sameRouting_session_deliver
    (s : DeliverySession)
    (via : Option Nat)
    (hardwareId : String)
    (i : CommandInvocation) :
    s.hub.SameRouting (s.deliver via hardwareId i).2.hub := by
  have hSame := s.hub.sameRouting_deliver via
    (s.order via hardwareId i).ticket hardwareId i
  unfold deliver
  dsimp only
  split <;>
    exact ⟨hSame.forest, hSame.router, hSame.ids⟩

end DeliverySession

end DeviceHub

------------------------------------------------------------
-- Destinations of a Router
------------------------------------------------------------

namespace DeviceHub

/- The id of a destination that was accepted. -/
def DeliveryNote.registered? :
    DeliveryNote → Option String
  | registered id => some id
  | _ => none

namespace DeliverySession

variable {s : DeliverySession}
variable {ids : List String}

/- The components of destinations with the given ids. -/
def destinationTags
    (ids : List String) : List (Part × String) :=
  ids.mapIdx fun place id =>
    (.destination place, Destination.componentName id)

/-
  The destinations with these ids, which are all different,
  are those of the router, in this order, and it owns the
  component of each.
-/
structure Wired
    (s : DeliverySession)
    (ids : List String) : Prop where
  ids_eq : s.hub.equipment.destinations.map (·.id) = ids
  nodup : ids.Nodup
  placed : ∀ id place,
    s.hub.equipment.router.destinations.get? id = some place ↔
      ids[place]? = some id
  owned : ∃ c ts, s.hub.HasRouter c ts ∧
    ts.map Tree.tag = destinationTags ids

namespace Wired

/- A router without destinations. -/
theorem bare
    (b : Backend) :
    Wired (new (.bare b)) [] where
  ids_eq := rfl
  nodup := .nil
  placed := fun id place => by
    simp [new, Hub.bare, Router.new]
  owned := ⟨_, [], ⟨rfl, rfl, rfl, Status.noConfusion⟩, rfl⟩

/- The ids that are taken are those of destinations. -/
theorem contains_iff
    (hWired : Wired s ids)
    (id : String) :
    s.hub.equipment.router.destinations.contains id = true ↔
      id ∈ ids := by
  rw [Dict.contains, Option.isSome_iff_exists,
    List.mem_iff_getElem?]
  exact exists_congr (hWired.placed id)

/- The rules of choice do not matter. -/
theorem of_places
    (hWired : Wired s ids)
    {s' : DeliverySession}
    (hForest : s'.hub.forest = s.hub.forest)
    (hIds : s'.hub.equipment.destinations.map (·.id) =
      s.hub.equipment.destinations.map (·.id))
    (hPlaces : s'.hub.equipment.router.destinations =
      s.hub.equipment.router.destinations) :
    Wired s' ids where
  ids_eq := hIds.trans hWired.ids_eq
  nodup := hWired.nodup
  placed := hPlaces ▸ hWired.placed
  owned := by
    rcases hWired.owned with ⟨c, ts, hRouter, hTags⟩
    exact ⟨c, ts, ⟨hForest.trans hRouter.forest,
      hRouter.label, hRouter.canPause, hRouter.unpaused⟩,
      hTags⟩

/- A session with a hub that routes alike. -/
theorem of_sameRouting
    (hWired : Wired s ids)
    {s' : DeliverySession}
    (hSame : s.hub.SameRouting s'.hub) :
    Wired s' ids :=
  hWired.of_places hSame.forest hSame.ids
    (congrArg Router.destinations hSame.router)

/- Where an id is taken, nothing is registered. -/
theorem register_taken
    (hWired : Wired s ids)
    {d : Destination}
    (hTaken : d.id ∈ ids) :
    s.register d =
      (some (.refused (.duplicateDestination d.id)), s) := by
  have hRefused : s.hub.register d =
      .error (.duplicateDestination d.id) := by
    simp only [Hub.register, Router.register,
      if_pos ((hWired.contains_iff d.id).2 hTaken)]
    rfl
  unfold register
  rw [hRefused]

/- Otherwise the destination comes after all others. -/
theorem register_free
    (hWired : Wired s ids)
    {d : Destination}
    (hFree : d.id ∉ ids) :
    (s.register d).1 = some (.registered d.id) ∧
      Wired (s.register d).2 (ids ++ [d.id]) := by
  have hNot : ¬ s.hub.equipment.router.destinations.contains
      d.id = true :=
    fun hThere => hFree ((hWired.contains_iff d.id).1 hThere)
  have hLength : s.hub.equipment.destinations.length =
      ids.length := by
    rw [← hWired.ids_eq, List.length_map]
  simp only [register, Hub.register, Router.register,
    if_neg hNot]
  refine ⟨rfl, ?_, ?_, ?_, ?_⟩
  · exact List.map_append.trans
      (congrArg (· ++ [d.id]) hWired.ids_eq)
  · rw [List.nodup_append]
    refine ⟨hWired.nodup, by simp, ?_⟩
    rintro id hId _ hNew rfl
    exact hFree (List.mem_singleton.1 hNew ▸ hId)
  · intro id place
    change (s.hub.equipment.router.destinations.insert d.id
      s.hub.equipment.destinations.length).get? id = _ ↔ _
    rw [Dict.get?_insert, hLength, List.getElem?_append]
    by_cases hNew : id = d.id
    · subst hNew
      rw [if_pos rfl]
      split
      · rename_i hLess
        have hOther : ids[place]? ≠ some d.id := fun hAt =>
          hFree (List.mem_of_getElem? hAt)
        simp [hOther]
        omega
      · simp [List.getElem?_singleton]
        omega
    · rw [if_neg hNew, hWired.placed]
      split
      · rfl
      · rename_i hLess
        have hPast : ids[place]? = none :=
          List.getElem?_eq_none (Nat.le_of_not_lt hLess)
        simp [hPast, List.getElem?_singleton, Ne.symm hNew]
  · rcases hWired.owned with ⟨c, ts, hRouter, hTags⟩
    refine ⟨c, ts ++ [Equipment.destinationTree
      s.hub.equipment.destinations.length d],
      ⟨hRouter.addBelowRouter_eq _, hRouter.label,
        hRouter.canPause, hRouter.unpaused⟩, ?_⟩
    rw [List.map_append, hTags, hLength]
    unfold destinationTags
    rw [List.mapIdx_concat]
    rfl

/- Every move keeps a router wired. -/
theorem step
    (hWired : Wired s ids)
    (m : DeliveryMove) :
    Wired (s.step m).2 (ids ++
      (s.step m).1.toList.filterMap (·.registered?)) := by
  have hQuiet : ∀ {s' : DeliverySession}
      {note : Option DeliveryNote},
      Wired s' ids →
      note.bind DeliveryNote.registered? = none →
      Wired s' (ids ++
        note.toList.filterMap (·.registered?)) := by
    intro s' note hWired' hNone
    have hNothing :
        note.toList.filterMap (·.registered?) = [] := by
      cases note with
      | none => rfl
      | some n =>
          simp only [Option.bind_some] at hNone
          simp [hNone]
    rw [hNothing, List.append_nil]
    exact hWired'
  cases m with
  | map token id =>
      exact hQuiet (hWired.of_places rfl rfl rfl) rfl
  | fallBack id =>
      exact hQuiet (hWired.of_places rfl rfl rfl) rfl
  | register id encoding templates mode =>
      by_cases hTaken : id ∈ ids
      · simp only [DeliverySession.step]
        rw [hWired.register_taken hTaken]
        exact hQuiet hWired rfl
      · have hFree := hWired.register_free
          (d := .new id encoding templates ⟨mode, [], []⟩)
          hTaken
        simp only [DeliverySession.step]
        rw [hFree.1]
        exact hFree.2
  | control part action =>
      simp only [DeliverySession.step, control]
      split
      · exact hQuiet hWired rfl
      · rename_i result h hControl
        rcases hWired.owned with ⟨c, ts, hRouter, hTags⟩
        rcases hRouter.controlled hControl with
          ⟨c', ts', hRouter', hTags'⟩
        rcases Hub.controlled_of_control hControl with
          ⟨i, p, t, u, hControlled⟩
        have hFixtures := hControlled.sameFixtures
        refine hQuiet ⟨?_, hWired.nodup, ?_,
          ⟨c', ts', hRouter', hTags'.trans hTags⟩⟩ rfl
        · exact (congrArg (List.map Destination.id)
            hFixtures.destinations).trans hWired.ids_eq
        · exact hFixtures.router ▸ hWired.placed
  | store b =>
      exact hQuiet (hWired.of_places rfl rfl rfl) rfl
  | deliver via hardwareId i =>
      refine hQuiet (hWired.of_sameRouting
        (s.sameRouting_session_deliver via hardwareId i)) ?_
      unfold DeliverySession.step deliver
      dsimp only
      split <;> rfl
  | serve place =>
      refine hQuiet (hWired.of_sameRouting
        (s.sameRouting_serve place)) ?_
      unfold DeliverySession.step serve
      dsimp only
      split
      · rfl
      · split
        · rfl
        · split <;> rfl
  | handle place event =>
      exact hQuiet (hWired.of_sameRouting
        (s.sameRouting_handle place event)) rfl

/- So do any moves. -/
theorem run
    (hWired : Wired s ids)
    (moves : List DeliveryMove) :
    Wired (s.run moves).2 (ids ++
      (s.run moves).1.filterMap (·.registered?)) := by
  refine runAll_induct
    (P := fun _ notes (s : DeliverySession) =>
      Wired s (ids ++
        notes.filterMap DeliveryNote.registered?))
    (fun _ _ _ m hSoFar => ?_)
    ((List.append_nil ids).symm ▸ hWired) moves
  rw [List.filterMap_append, ← List.append_assoc]
  exact hSoFar.step m

end Wired

end DeliverySession

end DeviceHub
