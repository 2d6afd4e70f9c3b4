import DeviceHub.Proofs.Lifecycle.Shutdown

/-
  A stop called at any component of a tree that runs.

  Whatever the statuses in the tree and whichever hooks fail,
  it can be told beforehand which hooks run and in what
  order.  What they come to decides how each component ends,
  and what the answer says.

  Main statements:
    * `Tree.stop_reaches_live`
-/

namespace DeviceHub

namespace Tree

variable {κ σ : Type}

/-
  The stop of a component that is started or paused.  The
  stop hooks of all live components run, once each, parents
  before children and later children before earlier ones, and
  no other hooks do.  A live component ends terminated if no
  stop hook at or below it fails, and in error otherwise; all
  others in the tree stay as they are.  The answer is good if
  no hook fails.  If the component's own fails, the answer is
  its error; otherwise it names the last of the children that
  have ended in error.
-/
theorem stop_reaches_live
    {t u : Tree κ}
    {p : Address}
    (hPart : t.part? p = some u)
    (hRuns : u.status = .started ∨ u.status = .paused)
    (hooks : Hooks κ σ)
    (s : σ)
    (log : List (HookRun κ)) :
    ∃ (o : Outcome κ (σ × List (HookRun κ)))
        (v : Tree κ) (runs : List (Address × HookRun κ)),
      t.callAt? hooks.journaled .stop p (s, log) = some o ∧
      t.callAt? hooks .stop p s =
        some ⟨o.result, o.tree, o.state.1⟩ ∧
      o.tree.part? p = some v ∧
      o.state.2 = log ++ runs.map (·.2) ∧
      (∀ x ∈ runs, x.2.hook = .stop ∧
        ∃ c, u.component? x.1 = some c ∧
          c.label = x.2.label) ∧
      (runs.map (·.1)).Nodup ∧
      (∀ q, q ∈ runs.map (·.1) ↔ Live u q) ∧
      (runs.map (·.1)).Pairwise StopsBefore ∧
      (∀ q, Live u q →
        (QuietBelow runs q →
          v.status? q = some .terminated) ∧
        (¬ QuietBelow runs q →
          v.status? q = some .error)) ∧
      (∀ q, (∀ r, q = p ++ r → ¬ Live u r) →
        o.tree.component? q = t.component? q) ∧
      ((∃ status, o.result = .ok status) ↔
        ∀ x ∈ runs, x.2.result = .ok ()) ∧
      ∀ e, o.result = .error e → Complaint u v runs e := by
  have hAlike := alike_journaled hooks .stop u s log
  rcases shutdown_stop hooks ((canStop_iff _).2 hRuns)
      (s, log) with ⟨runs, hShutdown⟩
  have hHere := part?_replace hPart
    (stop hooks.journaled u (s, log)).tree
  refine ⟨_, _, runs, callAt?_eq_some hPart .., ?_, hHere,
    hShutdown.journal, hShutdown.owned, hShutdown.nodup, ?_,
    List.pairwise_map.2 hShutdown.ordered, hShutdown.ended,
    ?_, hShutdown.result_iff, hShutdown.complaint⟩
  · rw [callAt?_eq_some hPart, ← hAlike.result, ← hAlike.tree,
      ← hAlike.state.1]
  · intro q
    rw [← hShutdown.live, List.mem_map]
    constructor
    · rintro ⟨x, hRun, rfl⟩
      exact ⟨x.2, hRun⟩
    · rintro ⟨r, hRun⟩
      exact ⟨_, hRun, rfl⟩
  · intro q hNot
    by_cases hPrefix : p <+: q
    · rcases hPrefix with ⟨r, rfl⟩
      rw [component?_append hPart,
        ← hShutdown.kept r (hNot r rfl)]
      exact component?_append hHere r
    · exact component?_replace_of_outside t _ hPrefix

/-
  A hub at work.  Its pipeline has been stopped, though what
  stands below the pipeline still runs.
-/
def busyHub : Tree Nat :=
  node { Component.new 0 "hub" .supervisor with
      status := .started }
    [node (.new 1 "pipeline" .inboundPipeline)
        [leaf { Component.new 2 "decoder" (.other "decoder")
          with status := .started }],
      leaf { Component.new 3 "router" .commandRouter with
        status := .paused },
      leaf { Component.new 4 "engine" .batchOperationManager
        with status := .started }]

/- The router of the hub cannot be stopped. -/
def stuckRouter : Hooks Nat Unit :=
  fun c _ s =>
    if c.label = 3 then (.error (.other "stuck"), s)
    else (.ok (), s)

/-
  The engine is stopped, the router ends in error and the hub
  with it, and the decoder is left running.
-/
theorem stop_reaches_live_router :
    ∃ (o : Outcome Nat (Unit × List (HookRun Nat)))
        (v : Tree Nat) (runs : List (Address × HookRun Nat)),
      busyHub.callAt? stuckRouter.journaled .stop []
        ((), []) = some o ∧
      o.state.2 = runs.map (·.2) ∧
      [2] ∈ runs.map (·.1) ∧ [0, 0] ∉ runs.map (·.1) ∧
      o.tree.component? [0, 0] =
        busyHub.component? [0, 0] ∧
      o.result = .error (.childFailed "hub" "router"
        "Lifecycle error: stuck") ∧
      Complaint busyHub v runs (.childFailed "hub" "router"
        "Lifecycle error: stuck") := by
  rcases stop_reaches_live (t := busyHub) (p := []) rfl
      (.inl rfl) stuckRouter () [] with
    ⟨o, v, runs, hCall, -, -, hLog, -, -, hLive, -, -, hKept,
      -, hError⟩
  have hResult :
      (busyHub.callAt? stuckRouter.journaled .stop []
        ((), [])).map (·.result) =
        some (.error (.childFailed "hub" "router"
          "Lifecycle error: stuck")) :=
    rfl
  rw [hCall, Option.map_some, Option.some.injEq] at hResult
  have hEngine : Live busyHub [2] :=
    .child (p := []) .root rfl (.inl rfl)
  have hDecoder : ¬ Live busyHub [0, 0] := by
    intro hReached
    rcases live_cons_iff.1 hReached with ⟨u, hu, hStop, -⟩
    cases hu
    cases hStop
  refine ⟨o, v, runs, hCall, hLog, (hLive _).2 hEngine,
    fun hRun => hDecoder ((hLive _).1 hRun), ?_, hResult,
    hError _ hResult⟩
  refine hKept _ fun r hPlace => ?_
  rw [List.nil_append] at hPlace
  rwa [← hPlace]

end Tree

end DeviceHub
