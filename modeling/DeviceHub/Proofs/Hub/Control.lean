import DeviceHub.Hub.Basic
import DeviceHub.Proofs.Lifecycle.Keeping

/-
  Calls to the components of a hub.

  A call reaches one component and those below it.  What the
  hooks do to the equipment is confined to pipelines and
  asset modules; the storage, the destinations and the router
  are as they were.

  Key definitions include:
    * `Equipment.SameFixtures`
    * `Hub.Controlled`

  Main statements:
    * `Equipment.sameFixtures_hooks`
    * `Hub.controlled_of_control`
    * `Hub.control_root`
-/

------------------------------------------------------------
-- What Hooks Keep
------------------------------------------------------------

namespace DeviceHub

namespace Equipment

/- Equipment that differs in pipelines and modules only. -/
structure SameFixtures
    (e e' : Equipment) : Prop where
  registry : e'.registry = e.registry
  backend : e'.backend = e.backend
  destinations : e'.destinations = e.destinations
  router : e'.router = e.router
  files : e'.files = e.files

namespace SameFixtures

theorem refl
    (e : Equipment) :
    e.SameFixtures e :=
  ⟨rfl, rfl, rfl, rfl, rfl⟩

theorem trans
    {e e' e'' : Equipment}
    (hFirst : e.SameFixtures e')
    (hSecond : e'.SameFixtures e'') :
    e.SameFixtures e'' where
  registry := hSecond.registry.trans hFirst.registry
  backend := hSecond.backend.trans hFirst.backend
  destinations :=
    hSecond.destinations.trans hFirst.destinations
  router := hSecond.router.trans hFirst.router
  files := hSecond.files.trans hFirst.files

end SameFixtures

/- No hook changes anything but pipelines and modules. -/
theorem sameFixtures_hooks
    (c : Component Part)
    (hook : Hook)
    (e : Equipment) :
    e.SameFixtures (hooks c hook e).2 := by
  unfold hooks
  split
  · unfold pipelineHook
    split <;> exact ⟨rfl, rfl, rfl, rfl, rfl⟩
  · unfold destinationHook
    split <;> exact .refl e
  · unfold moduleHook
    split <;> exact ⟨rfl, rfl, rfl, rfl, rfl⟩
  · exact .refl e
  · exact .refl e

/- No call does. -/
theorem sameFixtures_call
    (e : Equipment)
    (action : LifecycleAction)
    (t : Tree Part) :
    e.SameFixtures (t.call hooks action e).state :=
  Tree.call_keeps (Q := e.SameFixtures)
    (fun c hook s hs => hs.trans (sameFixtures_hooks c hook s))
    action t (.refl e)

end Equipment

------------------------------------------------------------
-- Calls
------------------------------------------------------------

namespace Hub

/-
  A call went to the component at an address of one of the
  trees.
-/
structure Controlled
    (h : Hub)
    (part : Part)
    (action : LifecycleAction)
    (result : Except LifecycleError Status)
    (h' : Hub)
    (i : Nat)
    (p : Address)
    (t u : Tree Part) : Prop where
  tree : h.forest[i]? = some t
  here : t.part? p = some u
  label : u.self.label = part
  result : result =
    (u.call Equipment.hooks action h.equipment).result
  hub : h' = { h with
    forest := h.forest.set i (t.replace
      (u.call Equipment.hooks action h.equipment).tree p)
    equipment :=
      (u.call Equipment.hooks action h.equipment).state }

theorem controlled_of_control
    {h h' : Hub}
    {part : Part}
    {action : LifecycleAction}
    {result : Except LifecycleError Status}
    (hControl : h.control part action = some (result, h')) :
    ∃ i p t u, Controlled h part action result h' i p t u := by
  unfold control at hControl
  rcases Option.bind_eq_some_iff.1 hControl with
    ⟨⟨⟨answer, equipment⟩, forest⟩, hVisit, hSame⟩
  cases hSame
  rcases Tree.exists_visited_of_visitFirst?
      (fun t _ a t' => Tree.visited_of_visit?) hVisit with
    ⟨i, t, t', hTree, ⟨p, u, v, hHere, hTest, hCall, rfl⟩,
      rfl⟩
  cases hCall
  exact ⟨i, p, t, u, hTree, hHere, by simpa using hTest, rfl,
    rfl⟩

/- To ask the only root is to ask its tree. -/
theorem control_root
    {h : Hub}
    {t : Tree Part}
    (hForest : h.forest = [t])
    (action : LifecycleAction) :
    h.control t.self.label action =
      let o := t.call Equipment.hooks action h.equipment
      some (o.result, { h with
        forest := [o.tree]
        equipment := o.state }) := by
  cases t with
  | node c ts =>
      simp [control, hForest, Tree.visitFirst?, Tree.visit?,
        Tree.self]

/- The only root stands where its component does. -/
theorem status_root
    {h : Hub}
    {t : Tree Part}
    (hForest : h.forest = [t]) :
    h.status t.self.label = t.status := by
  cases t with
  | node c ts =>
      simp [Hub.status, tree?, hForest, Tree.partsOfAll,
        Tree.parts, Tree.self, Tree.status]

/- The fixtures of a hub are as they were. -/
theorem Controlled.sameFixtures
    {h h' : Hub}
    {part : Part}
    {action : LifecycleAction}
    {result : Except LifecycleError Status}
    {i : Nat}
    {p : Address}
    {t u : Tree Part}
    (hControlled :
      Controlled h part action result h' i p t u) :
    h.equipment.SameFixtures h'.equipment := by
  rw [hControlled.hub]
  exact h.equipment.sameFixtures_call action u

end Hub

end DeviceHub
