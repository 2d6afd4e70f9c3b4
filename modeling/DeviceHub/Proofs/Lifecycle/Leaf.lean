import DeviceHub.Proofs.Lifecycle.Calls

/-
  Calls of a component that stands alone and cannot pause.

  Such a component runs its start hook when it is started
  from rest and its stop hook when it is stopped at work.
  Any other call runs no hook.

  Key definitions include:
    * `Component.IsSimple`
    * `Tree.LeafCall`

  Main statements:
    * `Tree.leafCall`
    * `Tree.LeafCall.isSimple`
-/

namespace DeviceHub

variable {κ σ : Type}

/- A component that cannot pause and is not paused. -/
structure Component.IsSimple
    (c : Component κ) : Prop where
  canPause : c.canPause = false
  notPaused : c.status ≠ .paused

theorem Component.isSimple_new
    (label : κ)
    (name : String)
    (kind : ComponentKind) :
    (Component.new label name kind).IsSimple := by
  constructor
  · rfl
  · intro hPaused
    cases hPaused

namespace Tree

/- The ways in which a call of a lone component can go. -/
inductive LeafCall
    (hooks : Hooks κ σ)
    (c : Component κ)
    (s : σ) : LifecycleAction → Outcome κ σ → Prop where
  | idle
      {action : LifecycleAction}
      {result : Except LifecycleError Status}
      (hResult : ∀ status, result = .ok status →
        action = .pause) :
      LeafCall hooks c s action ⟨result, leaf c, s⟩
  | started
      {s' : σ}
      (hStatus : c.status = .stopped)
      (hHook : hooks (c.record .starting "start requested")
        .start s = (.ok (), s')) :
      LeafCall hooks c s .start
        (reached (c.record .starting "start requested") []
          .started "started" s')
  | unstarted
      {e : LifecycleError}
      {s' : σ}
      (hStatus : c.status = .stopped)
      (hHook : hooks (c.record .starting "start requested")
        .start s = (.error e, s')) :
      LeafCall hooks c s .start
        (failed (c.record .starting "start requested") [] e
          s')
  | stopped
      {s' : σ}
      (hStatus : c.status = .started)
      (hHook : hooks (c.record .stopping "stop requested")
        .stop s = (.ok (), s')) :
      LeafCall hooks c s .stop
        (reached (c.record .stopping "stop requested") []
          .terminated "stopped" s')
  | unstopped
      {e : LifecycleError}
      {s' : σ}
      (hStatus : c.status = .started)
      (hHook : hooks (c.record .stopping "stop requested")
        .stop s = (.error e, s')) :
      LeafCall hooks c s .stop
        (failed (c.record .stopping "stop requested") [] e s')
  | cleared
      (hStatus : c.status = .error) :
      LeafCall hooks c s .reset ⟨.ok .stopped, leaf c.clear, s⟩

theorem leafCall
    (hooks : Hooks κ σ)
    (action : LifecycleAction)
    {c : Component κ}
    (hSimple : c.IsSimple)
    (s : σ) :
    LeafCall hooks c s action
      (call hooks action (leaf c) s) := by
  have hRefused {e : LifecycleError} :
      LeafCall hooks c s action (rejected (leaf c) e s) := by
    apply LeafCall.idle
    intro status hOk
    cases hOk
  cases action with
  | start =>
      change LeafCall hooks c s .start (start hooks (leaf c) s)
      unfold leaf start
      rw [if_neg hSimple.notPaused]
      by_cases hStatus : c.status = .stopped
      · rw [if_pos hStatus, startAll]
        rcases runHook_cases hooks .start
            (c.record .starting "start requested") []
            .started "started" s with
          ⟨s', hHook, hRun⟩ | ⟨e, s', hHook, hRun⟩
        · simp only [hRun]
          exact .started hStatus hHook
        · simp only [hRun]
          exact .unstarted hStatus hHook
      · rw [if_neg hStatus]
        exact hRefused
  | pause =>
      have hPause := pause_cases hooks c [] s
      change LeafCall hooks c s .pause (pause hooks (leaf c) s)
      unfold leaf
      generalize pause hooks (node c []) s = o at hPause
      cases hPause with
      | inError => exact hRefused
      | idle => exact .idle fun _ _ => rfl
      | refused _ hCanPause =>
          rw [hSimple.canPause] at hCanPause
          cases hCanPause
      | ready hCanPause =>
          rw [hSimple.canPause] at hCanPause
          cases hCanPause
  | stop =>
      change LeafCall hooks c s .stop (stop hooks (leaf c) s)
      unfold leaf stop
      by_cases hStatus : c.status = .started
      · simp only [Status.canStop, hStatus, decide_true,
          Bool.true_or, if_true, stopAll]
        cases hHook : hooks (c.record .stopping
            "stop requested") .stop s with
        | mk result s' =>
            cases result with
            | ok => exact .stopped hStatus hHook
            | error e => exact .unstopped hStatus hHook
      · simp only [Status.canStop, hStatus, hSimple.notPaused,
          decide_false, Bool.or_false, Bool.false_eq_true,
          if_false]
        exact hRefused
  | reset =>
      have hReset := reset_cases c [] s
      change LeafCall hooks c s .reset (reset (leaf c) s)
      unfold leaf
      generalize reset (node c []) s = o at hReset
      cases hReset with
      | refused => exact hRefused
      | cleared hStatus => exact .cleared hStatus

/- A lone component stays alone, and as simple as it was. -/
theorem LeafCall.isSimple
    {hooks : Hooks κ σ}
    {c : Component κ}
    {s : σ}
    {action : LifecycleAction}
    {o : Outcome κ σ}
    (hCall : LeafCall hooks c s action o)
    (hSimple : c.IsSimple) :
    o.tree.self.IsSimple := by
  cases hCall with
  | idle => exact hSimple
  | started | unstarted | stopped | unstopped | cleared =>
      refine ⟨hSimple.canPause, ?_⟩
      intro hPaused
      cases hPaused

end Tree

end DeviceHub
