import DeviceHub.Proofs.Lifecycle.Calls

/-
  The answers of calls.

  A call is refused by a component in the wrong status, and
  then nothing happens at all.  One that is admitted runs the
  hooks of the component and of those below it only, and its
  answer agrees with where the component stands afterwards.

  Key definitions include:
    * `Component.Admits`
    * `Tree.Outcome.Honest`

  Main statements:
    * `Tree.call_refused`
    * `Tree.honest_call`
    * `Tree.call_stays_in_subtree`
-/

namespace DeviceHub

/- The statuses in which a call is not refused. -/
def Component.Admits
    {κ : Type}
    (c : Component κ) : LifecycleAction → Prop
  | .start => c.status = .stopped ∨ c.status = .paused
  | .pause =>
      c.status ≠ .error ∧
        (c.canPause = true → c.status = .started)
  | .stop => c.status = .started ∨ c.status = .paused
  | .reset => c.status = .error

namespace Tree

variable {κ σ : Type}

------------------------------------------------------------
-- Refusals
------------------------------------------------------------

/- Why a component refuses a call. -/
def refusal
    (c : Component κ)
    (action : LifecycleAction) : LifecycleError :=
  if c.status = .error ∧ action ≠ .reset then
    .inErrorState c.name
  else
    .invalidTransition c.name c.status action

theorem refusal_eq_rejection
    (c : Component κ)
    {action : LifecycleAction}
    (hAction : action ≠ .reset) :
    refusal c action = c.rejection action := by
  unfold refusal Component.rejection
  simp [hAction]

theorem canStop_iff
    (status : Status) :
    status.canStop = true ↔
      status = .started ∨ status = .paused := by
  unfold Status.canStop
  simp

/- A call that is not admitted does nothing but say why. -/
theorem call_refused
    (hooks : Hooks κ σ)
    {action : LifecycleAction}
    {t : Tree κ}
    (hRefused : ¬ t.self.Admits action)
    (s : σ) :
    t.call hooks action s =
      ⟨.error (refusal t.self action), t, s⟩ := by
  cases t with
  | node c ts =>
      cases action with
      | start =>
          have hWay := start_cases hooks c ts s
          unfold call
          generalize start hooks (node c ts) s = o at hWay ⊢
          rw [refusal_eq_rejection _ (by decide)]
          cases hWay with
          | refused => rfl
          | resumed hPaused =>
              exact absurd (.inr hPaused) hRefused
          | blocked hStopped | ready hStopped =>
              exact absurd (.inl hStopped) hRefused
      | pause =>
          have hWay := pause_cases hooks c ts s
          unfold call
          generalize pause hooks (node c ts) s = o at hWay ⊢
          cases hWay with
          | inError hStatus =>
              simp [refusal, rejected, self, hStatus]
          | idle hStatus hCanPause =>
              exact absurd ⟨hStatus, by simp [self, hCanPause]⟩
                hRefused
          | refused =>
              rw [refusal_eq_rejection _ (by decide)]
              rfl
          | ready _ hStarted =>
              refine absurd ⟨?_, fun _ => hStarted⟩ hRefused
              rw [self, hStarted]
              decide
      | stop =>
          have hWay := stop_cases hooks c ts s
          unfold call
          generalize stop hooks (node c ts) s = o at hWay ⊢
          rw [refusal_eq_rejection _ (by decide)]
          cases hWay with
          | refused => rfl
          | failed hStatus | stopped hStatus =>
              exact absurd ((canStop_iff _).1 hStatus) hRefused
      | reset =>
          have hWay := reset_cases c ts s
          unfold call
          generalize reset (node c ts) s = o at hWay ⊢
          cases hWay with
          | refused hStatus => simp [refusal, rejected, self]
          | cleared hStatus => exact absurd hStatus hRefused

------------------------------------------------------------
-- Honest Answers
------------------------------------------------------------

/- An answer agrees with the tree that comes with it. -/
structure Outcome.Honest
    (o : Outcome κ σ) : Prop where
  ok : ∀ status, o.result = .ok status →
    o.tree.status = status
  error : ∀ e, o.result = .error e →
    o.tree.status = .error ∧
      o.tree.self.lastError = some e.message

theorem honest_failed
    (c : Component κ)
    (ts : List (Tree κ))
    (e : LifecycleError)
    (s : σ) :
    (failed c ts e s).Honest where
  ok := by
    intro status hResult
    cases hResult
  error := by
    intro d hResult
    cases hResult
    exact ⟨rfl, rfl⟩

theorem honest_of_ok
    {o : Outcome κ σ}
    (hResult : o.result = .ok o.tree.status) :
    o.Honest where
  ok := by
    intro status hOk
    rw [hResult] at hOk
    exact Except.ok.inj hOk
  error := by
    intro e hError
    rw [hResult] at hError
    cases hError

theorem honest_runHook
    (hooks : Hooks κ σ)
    (hook : Hook)
    (c : Component κ)
    (ts : List (Tree κ))
    (status : Status)
    (reason : String)
    (s : σ) :
    (runHook hooks hook c ts status reason s).Honest := by
  rcases runHook_cases hooks hook c ts status reason s with
    ⟨s', -, hRun⟩ | ⟨e, s', -, hRun⟩
  · rw [hRun]
    exact honest_of_ok rfl
  · rw [hRun]
    exact honest_failed c ts e s'

/- A call that is admitted is answered honestly. -/
theorem honest_call
    (hooks : Hooks κ σ)
    {action : LifecycleAction}
    {t : Tree κ}
    (hAdmits : t.self.Admits action)
    (s : σ) :
    (t.call hooks action s).Honest := by
  cases t with
  | node c ts =>
      cases action with
      | start =>
          have hWay := start_cases hooks c ts s
          unfold call
          generalize start hooks (node c ts) s = o at hWay ⊢
          cases hWay with
          | refused hStopped hPaused =>
              rcases hAdmits with hStatus | hStatus
              · exact absurd hStatus hStopped
              · exact absurd hStatus hPaused
          | resumed => exact honest_runHook ..
          | blocked => exact honest_failed ..
          | ready => exact honest_runHook ..
      | pause =>
          have hWay := pause_cases hooks c ts s
          unfold call
          generalize pause hooks (node c ts) s = o at hWay ⊢
          cases hWay with
          | inError hStatus => exact absurd hStatus hAdmits.1
          | idle => exact honest_of_ok rfl
          | refused _ hCanPause hStatus =>
              exact absurd (hAdmits.2 hCanPause) hStatus
          | ready => exact honest_runHook ..
      | stop =>
          have hWay := stop_cases hooks c ts s
          unfold call
          generalize stop hooks (node c ts) s = o at hWay ⊢
          cases hWay with
          | refused hStatus =>
              rw [← Bool.not_eq_true, canStop_iff] at hStatus
              exact absurd hAdmits hStatus
          | failed => exact honest_failed ..
          | stopped => exact honest_of_ok rfl
      | reset =>
          have hWay := reset_cases c ts s
          unfold call
          generalize reset (node c ts) s = o at hWay ⊢
          cases hWay with
          | refused hStatus => exact absurd hAdmits hStatus
          | cleared => exact honest_of_ok rfl

------------------------------------------------------------
-- Calls in a Tree
------------------------------------------------------------

/- A component that cannot pause says where it stands. -/
theorem pause_idle
    (hooks : Hooks κ σ)
    {t : Tree κ}
    (hStatus : t.status ≠ .error)
    (hCanPause : t.self.canPause = false)
    (s : σ) :
    t.call hooks .pause s = ⟨.ok t.status, t, s⟩ := by
  cases t with
  | node c ts =>
      have hWay := pause_cases hooks c ts s
      unfold call
      generalize pause hooks (node c ts) s = o at hWay ⊢
      cases hWay with
      | inError hError => exact absurd hError hStatus
      | idle => rfl
      | refused _ hYes | ready hYes =>
          rw [show c.canPause = false from hCanPause] at hYes
          cases hYes

/-
  A call of any component of a tree.  If it is refused, or is
  the pause of a component that cannot pause, no hook is run
  and nothing changes.  If it is admitted, only hooks of the
  component and of those below it are run, only they change,
  and the answer tells where the component stands.
-/
theorem call_stays_in_subtree
    {t u : Tree κ}
    {p : Address}
    (hPart : t.part? p = some u)
    (hooks : Hooks κ σ)
    (action : LifecycleAction)
    (s : σ)
    (log : List (HookRun κ)) :
    (¬ u.self.Admits action →
      t.callAt? hooks.journaled action p (s, log) =
        some ⟨.error (refusal u.self action), t, (s, log)⟩) ∧
    (u.status ≠ .error → u.self.canPause = false →
      t.callAt? hooks.journaled .pause p (s, log) =
        some ⟨.ok u.status, t, (s, log)⟩) ∧
    (u.self.Admits action →
      ∃ o runs,
        t.callAt? hooks.journaled action p (s, log) = some o ∧
        t.callAt? hooks action p s =
          some ⟨o.result, o.tree, o.state.1⟩ ∧
        o.state.2 = log ++ runs ∧
        (∀ r ∈ runs, ∃ q c,
          t.component? (p ++ q) = some c ∧
            c.label = r.label) ∧
        (∀ q, ¬ p <+: q →
          o.tree.component? q = t.component? q) ∧
        (∀ status, o.result = .ok status →
          o.tree.status? p = some status) ∧
        ∀ e, o.result = .error e → ∃ c,
          o.tree.component? p = some c ∧
            c.status = .error ∧
            c.lastError = some e.message) := by
  have hHere : ∀ v, (t.replace v p).part? p = some v :=
    part?_replace hPart
  refine ⟨?_, ?_, ?_⟩
  · intro hRefused
    rw [callAt?_eq_some hPart, call_refused _ hRefused,
      replace_self hPart]
  · intro hStatus hCanPause
    rw [callAt?_eq_some hPart,
      pause_idle _ hStatus hCanPause, replace_self hPart]
  · intro hAdmits
    have hAlike := alike_journaled hooks action u s log
    have hHonest := honest_call hooks.journaled hAdmits (s, log)
    rcases hAlike.state with ⟨hState, runs, hLog, hRuns⟩
    refine ⟨_, runs, callAt?_eq_some hPart .., ?_, hLog,
      ?_, ?_, ?_, ?_⟩
    · rw [callAt?_eq_some hPart, ← hAlike.result,
        ← hAlike.tree, ← hState]
    · intro r hMem
      rcases (hRuns r hMem).owned with ⟨q, c, hc, hLabel⟩
      exact ⟨q, c, (component?_append hPart q).trans hc, hLabel⟩
    · intro q hOutside
      exact component?_replace_of_outside t _ hOutside
    · intro status hResult
      unfold status?
      rw [hHere, Option.map_some, hHonest.ok status hResult]
    · intro e hResult
      rcases hHonest.error e hResult with ⟨hStatus, hError⟩
      refine ⟨_, ?_, hStatus, hError⟩
      unfold component?
      rw [hHere, Option.map_some]

/- A supervisor that gives up when a child fails. -/
def smallHub : Tree Nat :=
  node { Component.new 0 "hub" .supervisor with
      policy := .failFast }
    [leaf (.new 1 "pipeline" .inboundPipeline),
      leaf (.new 2 "router" .commandRouter)]

theorem smallHub_stopped :
    smallHub.All fun c => c.status = .stopped := by
  refine all_node_iff.2 ⟨rfl, ?_⟩
  intro t hMem
  simp only [List.mem_cons, List.not_mem_nil, or_false] at hMem
  rcases hMem with rfl | rfl
  · exact all_node_iff.2 ⟨rfl, by simp⟩
  · exact all_node_iff.2 ⟨rfl, by simp⟩

/- A router that cannot start fails alone. -/
theorem call_stays_in_subtree_router :
    ∃ o runs c,
      smallHub.callAt?
        (Hooks.journaled fun _ _ s =>
          (.error (.other "full"), s))
        .start [1] ((), []) = some o ∧
      o.state.2 = runs ∧ runs.length = 1 ∧
      o.tree.component? [0] = smallHub.component? [0] ∧
      o.tree.component? [1] = some c ∧ c.status = .error ∧
      c.lastError = some "Lifecycle error: full" := by
  let hooks : Hooks Nat Unit :=
    fun _ _ s => (.error (.other "full"), s)
  have hPart :
      smallHub.part? [1] =
        some (leaf (.new 2 "router" .commandRouter)) :=
    rfl
  rcases (call_stays_in_subtree hPart hooks .start () []).2.2
      (.inl rfl) with
    ⟨o, runs, hCall, -, hLog, -, hFrame, -, hError⟩
  have hRun :
      (smallHub.callAt? hooks.journaled .start [1]
        ((), [])).map (fun o => (o.result, o.state.2.length)) =
        some (.error (.other "full"), 1) :=
    rfl
  rw [hCall, Option.map_some, Option.some.injEq,
    Prod.mk.injEq] at hRun
  rcases hError _ hRun.1 with ⟨c, hc, hStatus, hReason⟩
  have hAside : ¬ [1] <+: ([0] : Address) := by
    decide
  refine ⟨o, runs, c, hCall, hLog, ?_, hFrame _ hAside, hc,
    hStatus, hReason⟩
  rw [← hRun.2, hLog]
  rfl

end Tree

end DeviceHub
