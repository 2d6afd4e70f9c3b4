import DeviceHub.Proofs.Lifecycle.Calls

/-
  What calls leave as it is.

  A property of the shared state that every hook keeps is
  kept by every call.  Components keep their parts and names
  in their places, and one that cannot pause is not paused by
  any call.

  Key definitions include:
    * `Tree.tag`

  Main statements:
    * `Tree.call_keeps`
    * `Tree.hook_of_start_ok`
    * `Tree.tags_of_parts`
    * `Tree.unpaused_call`
-/

namespace DeviceHub

namespace Tree

variable {κ σ : Type}

------------------------------------------------------------
-- The Shared State
------------------------------------------------------------

section State

variable {Q : σ → Prop}
variable {hooks : Hooks κ σ}
variable (hHooks : ∀ c hook s, Q s → Q (hooks c hook s).2)

include hHooks

/- Hooks that keep a property agree with themselves on it. -/
theorem hooksAgree_keeping :
    HooksAgree (fun _ => True) (fun s s' => s = s' ∧ Q s)
      hooks hooks := by
  rintro c hook s _ - ⟨rfl, hs⟩
  exact ⟨rfl, rfl, hHooks c hook s hs⟩

/- What every hook keeps of the state, a call keeps. -/
theorem call_keeps
    (action : LifecycleAction)
    (t : Tree κ)
    {s : σ}
    (hState : Q s) :
    Q (t.call hooks action s).state :=
  (alike_call (hooksAgree_keeping hHooks) action
    (fun _ _ _ => trivial) ⟨rfl, hState⟩).state.2

/- So does the start of several trees. -/
theorem startAll_keeps
    (parent : String)
    (policy : ChildPolicy)
    (ts : List (Tree κ))
    {s : σ}
    (hState : Q s) :
    Q (startAll hooks parent policy ts s).state :=
  (alikeAll_startAll
    (fun _ _ _ _ h => alike_start
      (hooksAgree_keeping hHooks) (fun _ _ _ => trivial) h)
    parent policy ⟨rfl, hState⟩).state.2

/-
  A component that was not paused starts only if its hook
  ends well, after those of its children.
-/
theorem hook_of_start_ok
    {c : Component κ}
    {ts : List (Tree κ)}
    {s : σ}
    {status : Status}
    (hState : Q s)
    (hStatus : c.status ≠ .paused)
    (hOk : (start hooks (node c ts) s).result = .ok status) :
    ∃ s', Q s' ∧
      (hooks (c.record .starting "start requested") .start s'
        ).1 = .ok () := by
  have hWay := start_cases hooks c ts s
  generalize start hooks (node c ts) s = o at hWay hOk
  cases hWay with
  | refused => cases hOk
  | resumed hPaused => exact absurd hPaused hStatus
  | blocked => cases hOk
  | ready =>
      rcases runHook_cases hooks .start
          (c.record .starting "start requested")
          (startAll hooks c.name c.policy ts s).trees .started
          "started" (startAll hooks c.name c.policy ts s).state
        with ⟨_, hHook, -⟩ | ⟨_, _, -, hRun⟩
      · exact ⟨_, startAll_keeps hHooks _ _ ts hState,
          congrArg Prod.fst hHook⟩
      · rw [hRun] at hOk
        cases hOk

end State

------------------------------------------------------------
-- Components
------------------------------------------------------------

/- Which part a tree is of, and what it is called. -/
def tag
    (t : Tree κ) : κ × String :=
  (t.self.label, t.self.name)

/- Who a component is does not change. -/
theorem tag_of_each
    {t t' : Tree κ}
    (hEach : Each Component.Turn t t') :
    t'.tag = t.tag := by
  have hTurn := hEach.root
  unfold tag
  generalize t'.self = c' at hTurn ⊢
  cases hTurn <;> rfl

theorem tags_of_forall₂
    {ts ts' : List (Tree κ)}
    (hEach : List.Forall₂ (Each Component.Turn) ts ts') :
    ts'.map tag = ts.map tag := by
  induction hEach with
  | nil => rfl
  | cons hHead _ ih =>
      rw [List.map_cons, List.map_cons, ih, tag_of_each hHead]

/- So the components of a tree are who they were. -/
theorem tags_of_parts
    {t t' : Tree κ}
    (hEach : Each Component.Turn t t') :
    t'.parts.map tag = t.parts.map tag := by
  induction t generalizing t' with
  | node c ts ih =>
      cases t' with
      | node c' ts' =>
          have hSelf := tag_of_each hEach
          have hChildren := hEach.children
          have hBelow : (partsOfAll ts').map tag =
              (partsOfAll ts).map tag := by
            clear hEach hSelf
            induction hChildren with
            | nil => rfl
            | cons hHead _ ihRest =>
                unfold partsOfAll
                rw [List.map_append, List.map_append,
                  ih _ (.head _) hHead,
                  ihRest fun t ht => ih t (.tail _ ht)]
          unfold parts
          rw [List.map_cons, List.map_cons, hBelow]
          exact congrArg (· :: _) hSelf

/- A component that cannot pause does not become paused. -/
theorem unpaused_call
    (hooks : Hooks κ σ)
    (action : LifecycleAction)
    {c : Component κ}
    (ts : List (Tree κ))
    (s : σ)
    (hCanPause : c.canPause = false)
    (hStatus : c.status ≠ .paused) :
    ((node c ts).call hooks action s).tree.self.status ≠
      .paused := by
  have hHook : ∀ hook d us status reason s',
      status ≠ .paused →
      (runHook hooks hook d us status reason s'
        ).tree.self.status ≠ .paused := by
    intro hook d us status reason s' hOther
    rcases runHook_cases hooks hook d us status reason s' with
      ⟨_, -, hRun⟩ | ⟨_, _, -, hRun⟩
    · rw [hRun]
      exact hOther
    · rw [hRun]
      exact Status.noConfusion
  cases action with
  | start =>
      have hWay := start_cases hooks c ts s
      change (start hooks (node c ts) s).tree.self.status ≠ _
      generalize start hooks (node c ts) s = o at hWay ⊢
      cases hWay with
      | refused => exact hStatus
      | resumed hPaused => exact absurd hPaused hStatus
      | blocked => exact Status.noConfusion
      | ready => exact hHook _ _ _ _ _ _ Status.noConfusion
  | pause =>
      have hWay := pause_cases hooks c ts s
      change (pause hooks (node c ts) s).tree.self.status ≠ _
      generalize pause hooks (node c ts) s = o at hWay ⊢
      cases hWay with
      | inError => exact hStatus
      | idle => exact hStatus
      | refused _ hCan => simp [hCanPause] at hCan
      | ready hCan => simp [hCanPause] at hCan
  | stop =>
      have hWay := stop_cases hooks c ts s
      change (stop hooks (node c ts) s).tree.self.status ≠ _
      generalize stop hooks (node c ts) s = o at hWay ⊢
      cases hWay with
      | refused => exact hStatus
      | failed => exact Status.noConfusion
      | stopped => exact Status.noConfusion
  | reset =>
      have hWay := reset_cases c ts s
      change (reset (node c ts) s).tree.self.status ≠ _
      generalize reset (node c ts) s = o at hWay ⊢
      cases hWay with
      | refused => exact hStatus
      | cleared => exact Status.noConfusion

end Tree

end DeviceHub
