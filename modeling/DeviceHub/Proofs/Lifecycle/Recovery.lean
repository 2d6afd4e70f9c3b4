import DeviceHub.Proofs.Lifecycle.Progress

/-
  Attempts to start a tree, until one succeeds.

  After a failed start the components in error are reset, and
  the start is tried again.  What has started stays started,
  and a hook that has succeeded is not run again: in the end
  every hook has succeeded once.

  Key definitions include:
    * `Tried.Since`

  Main statements:
    * `Attempt.exists_progress`
    * `Attempt.succeeds`
    * `Tried.since`
    * `Tried.recovers`
-/

namespace DeviceHub

variable {κ σ : Type}

------------------------------------------------------------
-- One Attempt
------------------------------------------------------------

open DeviceHub.Tree

/- A root that has started is not started again. -/
theorem Attempt.outcome_of_started
    (a : Attempt κ σ)
    {t : Tree κ}
    (hStarted : t.status = .started)
    (s : σ) :
    a.outcome t s =
      ⟨.error (refusal t.self .start), t, (s, [])⟩ := by
  have hRefused : ¬ t.self.Admits .start := by
    rintro (hStopped | hPaused)
    · rw [status, hStopped] at hStarted
      cases hStarted
    · rw [status, hPaused] at hStarted
      cases hStarted
  exact call_refused a.hooks.journaled hRefused (s, [])

/- The start of a tree that has not started is a launch. -/
theorem Attempt.exists_launch
    (a : Attempt κ σ)
    {t : Tree κ}
    (hWarm : t.Warm)
    (hRoot : t.status ≠ .started)
    (s : σ) :
    ∃ runs, Launch t [] (a.outcome t s) runs ∧
      Progress t (a.outcome t s).tree runs ∧
      ((a.outcome t s).result = .ok .started ↔
        ∀ r ∈ a.runs t s, r.result = .ok ()) := by
  rcases launch_start a.hooks hWarm hRoot (s, []) with
    ⟨runs, hLaunch⟩
  have hJournal : a.runs t s = runs.map StartRun.entry :=
    hLaunch.journal
  have hSame : SameLabels t (a.outcome t s).tree :=
    .of_turns (each_turn_start a.hooks.journaled t (s, []))
  refine ⟨runs, hLaunch, hLaunch.progress hWarm hSame, ?_⟩
  rw [hJournal, List.forall_mem_map]
  exact hLaunch.result_eq_ok_iff

/- Every attempt at a tree at rest makes progress. -/
theorem Attempt.exists_progress
    (a : Attempt κ σ)
    {t : Tree κ}
    (hWarm : t.Warm)
    (s : σ) :
    ∃ runs : List (StartRun κ),
      a.runs t s = runs.map StartRun.entry ∧
      ∀ resets, Progress t (a.after t s resets).1 runs := by
  by_cases hStarted : t.status = .started
  · have hOutcome := a.outcome_of_started hStarted s
    refine ⟨[], ?_, ?_⟩
    · unfold runs
      rw [hOutcome]
      rfl
    · unfold after
      rw [hOutcome]
      exact (Progress.refl hWarm).after_resets a.hooks s
  · rcases a.exists_launch hWarm hStarted s with
      ⟨runs, hLaunch, hProgress, -⟩
    exact ⟨runs, hLaunch.journal,
      hProgress.after_resets a.hooks _⟩

/- If all errors are reset, the tree is at rest again. -/
theorem Attempt.warm_after
    {a : Attempt κ σ}
    {t : Tree κ}
    (hWarm : t.Warm)
    {s : σ}
    (hThorough : a.Thorough t s) :
    (a.after t s a.resets).1.Warm := by
  rcases a.exists_progress hWarm s with ⟨runs, -, hProgress⟩
  refine ⟨?_, (hProgress a.resets).supported⟩
  intro p c hc
  rcases (hProgress a.resets).settled p c hc with
    hStopped | hStarted | hError
  · exact .inl hStopped
  · exact .inr hStarted
  · exfalso
    have hStatus : (a.after t s a.resets).1.status? p =
        some .error :=
      status?_eq_some_iff.2 ⟨c, hc, hError⟩
    unfold after at hStatus
    rw [status?_run_resets] at hStatus
    rcases Option.map_eq_some_iff.1 hStatus with
      ⟨before, hBefore, hAfter⟩
    split at hAfter
    · cases hAfter
    · rename_i hAside
      rw [hAfter] at hBefore
      exact hAside ⟨(hThorough p).2 hBefore, hAfter⟩

/- An attempt in which no hook fails starts the whole tree. -/
theorem Attempt.succeeds
    {a : Attempt κ σ}
    {t : Tree κ}
    (hWarm : t.Warm)
    (hRoot : t.status ≠ .started)
    {s : σ}
    (hRuns : ∀ r ∈ a.runs t s, r.result = .ok ()) :
    (a.outcome t s).result = .ok .started ∧
      (a.outcome t s).tree.All fun c =>
        c.status = .started := by
  rcases a.exists_launch hWarm hRoot s with
    ⟨runs, hLaunch, hProgress, hResult⟩
  have hOk := hResult.2 hRuns
  refine ⟨hOk, ?_⟩
  intro p c hc
  have hStarted := hLaunch.started_iff.2 ⟨_, hOk⟩
  have hStatus : (a.outcome t s).tree.status? ([] ++ p) =
      some c.status :=
    status?_eq_some_iff.2 ⟨c, hc, rfl⟩
  exact hProgress.supported.below (p := [])
    (congrArg some hStarted) hStatus

/- An attempt in which a hook fails does not start the root. -/
theorem Attempt.fails
    {a : Attempt κ σ}
    {t : Tree κ}
    (hWarm : t.Warm)
    {s : σ}
    {r : HookRun κ}
    (hRun : r ∈ a.runs t s)
    (hFailed : r.result ≠ .ok ()) :
    (a.outcome t s).tree.status ≠ .started := by
  by_cases hRoot : t.status = .started
  · unfold runs at hRun
    rw [a.outcome_of_started hRoot s] at hRun
    cases hRun
  · rcases a.exists_launch hWarm hRoot s with
      ⟨runs, hLaunch, -, hResult⟩
    intro hStarted
    rcases hLaunch.started_iff.1 hStarted with ⟨status, hOk⟩
    rw [hLaunch.started status hOk] at hOk
    exact hFailed (hResult.1 hOk r hRun)

------------------------------------------------------------
-- Attempts After Attempts
------------------------------------------------------------

/-
  What is true of a tree after attempts, and of the hooks
  that were run in them.
-/
structure Tried.Since
    (t : Tree κ)
    (rounds : List (List (HookRun κ)))
    (t' : Tree κ) : Prop where
  warm : t'.Warm
  same : SameLabels t t'
  kept : ∀ p c, t.component? p = some c →
    c.status = .started → t'.component? p = some c
  runs : ∀ runs ∈ rounds,
    (runs.map (·.label)).Subperm (t.labels (· ≠ .started))
  unfinished : t.status ≠ .started →
    (∀ runs ∈ rounds, ∃ r ∈ runs, r.result ≠ .ok ()) →
      t'.status ≠ .started
  succeeded :
    (t.labels (· = .started) ++
      (rounds.flatten.filter (·.succeeded)).map
        (·.label)).Perm
      (t'.labels (· = .started))

/- Hooks are only run of what has not started in the past. -/
theorem subperm_of_progress
    {t t₁ t₂ : Tree κ}
    {runs : List (StartRun κ)}
    (hSame : SameLabels t t₁)
    (hKept : ∀ p c, t.component? p = some c →
      c.status = .started → t₁.component? p = some c)
    (hProgress : Progress t₁ t₂ runs) :
    ((runs.map StartRun.entry).map (·.label)).Subperm
      (t.labels (· ≠ .started)) := by
  have hSubset :
      runs.map StartRun.mark ⊆ t.marks (· ≠ .started) := by
    rintro ⟨p, k⟩ hMem
    rcases List.mem_map.1 hMem with ⟨r, hRun, hMark⟩
    cases hMark
    have hHere := hProgress.component?_eq hRun
    rcases hSame.exists_before hHere with ⟨c, hc, hLabel⟩
    refine mem_marks_iff.2 ⟨c, hc, ?_, hLabel⟩
    apply decide_eq_true
    intro hStarted
    have hSelf := hKept _ c hc hStarted
    rw [hHere, Option.some.injEq] at hSelf
    apply hProgress.idle r hRun
    rw [hSelf, hStarted]
  rcases hProgress.nodup.subperm hSubset with
    ⟨marks, hPerm, hSublist⟩
  refine ⟨marks.map (·.2), ?_, hSublist.map _⟩
  have hLabels := hPerm.map (·.2)
  rw [List.map_map] at hLabels ⊢
  exact hLabels

theorem Tried.since
    {t t' : Tree κ}
    {s s' : σ}
    {rounds : List (List (HookRun κ))}
    (hWarm : t.Warm)
    (hTried : Tried t s rounds t' s') :
    Tried.Since t rounds t' := by
  induction hTried with
  | untried =>
      exact {
        warm := hWarm
        same := fun _ => rfl
        kept := fun _ _ hc _ => hc
        runs := fun _ hMem => absurd hMem List.not_mem_nil
        unfinished := fun hRoot _ => hRoot
        succeeded := by simp }
  | @again rounds t₁ s₁ hBefore a hThorough ih =>
      rcases a.exists_progress ih.warm s₁ with
        ⟨runs, hRuns, hProgress⟩
      have hHere := hProgress a.resets
      refine ⟨a.warm_after ih.warm hThorough, ?_, ?_, ?_, ?_, ?_⟩
      · exact fun p => (hHere.same p).trans (ih.same p)
      · exact fun p c hc hStarted =>
          hHere.kept p c (ih.kept p c hc hStarted) hStarted
      · intro entries hMem
        rcases List.mem_append.1 hMem with hOld | hNew
        · exact ih.runs entries hOld
        · rw [List.mem_singleton.1 hNew, hRuns]
          exact subperm_of_progress ih.same ih.kept hHere
      · intro _ hFailed hStarted
        rcases hFailed (a.runs t₁ s₁) (by simp) with
          ⟨r, hRun, hBad⟩
        apply a.fails ih.warm hRun hBad
        have hRoot := (status?_run_resets_eq_started_iff
          a.hooks _ _ a.resets []).1 (congrArg some hStarted)
        exact Option.some.inj hRoot
      · have hPerm := hHere.perm_marks.map (·.2)
        have hNew :
            ((runs.filter (·.entry.succeeded)).map
              StartRun.mark).map (·.2) =
              ((a.runs t₁ s₁).filter (·.succeeded)).map
                (·.label) := by
          rw [hRuns, List.filter_map, List.map_map,
            List.map_map]
          rfl
        rw [List.map_append, hNew] at hPerm
        rw [List.flatten_append, List.flatten_singleton,
          List.filter_append, List.map_append,
          ← List.append_assoc]
        exact (ih.succeeded.append_right _).trans hPerm

/-
  Attempts to start a tree of stopped components.  Whatever
  comes later, what has started stays as it is and its hook
  is not run again.  Below a started component all have
  started, between attempts and at any time in the next one.
  The first attempt in which no hook fails starts the whole
  tree, and then every hook has succeeded exactly once.
-/
theorem Tried.recovers
    {t t₁ : Tree κ}
    (hCold : t.All fun c => c.status = .stopped)
    {s s₁ : σ}
    {rounds : List (List (HookRun κ))}
    (hTried : Tried t s rounds t₁ s₁) :
    (∀ later t₂ s₂, Tried t₁ s₁ later t₂ s₂ →
      (∀ p c, t₁.component? p = some c →
        c.status = .started → t₂.component? p = some c) ∧
      ∀ runs ∈ later,
        (runs.map (·.label)).Subperm
          (t₁.labels (· ≠ .started))) ∧
    (∀ t₂,
      (t₂ = t₁ ∨ ∃ (a : Attempt κ σ) (resets : List Address),
        t₂ = (a.after t₁ s₁ resets).1) →
      (∀ p c, t₁.component? p = some c →
        c.status = .started → t₂.component? p = some c) ∧
      ∀ p q status, t₂.status? p = some .started →
        t₂.status? (p ++ q) = some status →
          status = .started) ∧
    ∀ a : Attempt κ σ,
      (∀ runs ∈ rounds, ∃ r ∈ runs, r.result ≠ .ok ()) →
      (∀ r ∈ a.runs t₁ s₁, r.result = .ok ()) →
      (a.outcome t₁ s₁).result = .ok .started ∧
      ((a.outcome t₁ s₁).tree.All fun c =>
        c.status = .started) ∧
      (((rounds ++ [a.runs t₁ s₁]).flatten.filter
        (·.succeeded)).map (·.label)).Perm
          (t.labels fun _ => true) := by
  have hWarm := warm_of_stopped hCold
  have hSince := hTried.since hWarm
  refine ⟨?_, ?_, ?_⟩
  · intro later t₂ s₂ hLater
    have hLaterSince := hLater.since hSince.warm
    exact ⟨hLaterSince.kept, hLaterSince.runs⟩
  · rintro t₂ (rfl | ⟨a, resets, rfl⟩)
    · exact ⟨fun p c hc _ => hc,
        fun p q status => hSince.warm.supported.below⟩
    · rcases a.exists_progress hSince.warm s₁ with
        ⟨runs, -, hProgress⟩
      exact ⟨(hProgress resets).kept,
        fun p q status => (hProgress resets).supported.below⟩
  · intro a hFailed hRuns
    have hRoot : t₁.status ≠ .started :=
      hSince.unfinished (root_of_stopped hCold) hFailed
    rcases a.succeeds hSince.warm hRoot hRuns with
      ⟨hResult, hAll⟩
    refine ⟨hResult, hAll, ?_⟩
    -- Nothing is left in error, so the attempt is complete
    -- without resets and counts like those before it.
    have hThorough :
        (⟨a.hooks, []⟩ : Attempt κ σ).Thorough t₁ s₁ := by
      intro p
      refine iff_of_false List.not_mem_nil fun hError => ?_
      rcases status?_eq_some_iff.1 hError with ⟨c, hc, hStatus⟩
      rw [hAll p c hc] at hStatus
      cases hStatus
    have hEnd := (hTried.again _ hThorough).since hWarm
    have hNone : t.marks (· = .started) = [] := by
      apply marks_eq_nil
      intro p c hc
      rw [hCold p c hc]
      rfl
    have hFull :
        (a.outcome t₁ s₁).tree.marks (· = .started) =
          (a.outcome t₁ s₁).tree.marks fun _ => true := by
      apply marks_eq_marks_true
      intro p c hc
      exact decide_eq_true (hAll p c hc)
    have hSucceeded := hEnd.succeeded
    have hLabels := hEnd.same.perm_marks.map (·.2)
    unfold labels at hSucceeded ⊢
    rw [hNone] at hSucceeded
    refine hSucceeded.trans (.trans ?_ hLabels)
    exact .of_eq (congrArg (List.map (·.2)) hFull)

/- The pipeline of the small hub fails, and both are reset. -/
def fullTry : Attempt Nat Unit :=
  ⟨fun c _ s =>
      (if c.label = 1 then .error (.other "full") else .ok (),
        s),
    [[0], []]⟩

/- Nothing fails. -/
def freeTry : Attempt Nat Unit :=
  ⟨fun _ _ s => (.ok (), s), []⟩

theorem thorough_fullTry :
    fullTry.Thorough smallHub () := by
  intro p
  match p with
  | [] => exact iff_of_true (by decide) rfl
  | [0] => exact iff_of_true (by decide) rfl
  | 0 :: _ :: _ => exact iff_of_false (by simp [fullTry]) nofun
  | [1] => exact iff_of_false (by decide) nofun
  | 1 :: _ :: _ => exact iff_of_false (by simp [fullTry]) nofun
  | (i + 2) :: _ => exact iff_of_false (by simp [fullTry]) nofun

/- The second attempt to start the small hub succeeds. -/
theorem Tried.recovers_second_try :
    ∃ (rounds : List (List (HookRun Nat))) (t : Tree Nat),
      Tried smallHub () rounds t () ∧
      (freeTry.outcome t ()).result = .ok .started ∧
      (((rounds ++ [freeTry.runs t ()]).flatten.filter
        (·.succeeded)).map (·.label)).Perm [1, 2, 0] := by
  have hTried :=
    Tried.untried.again fullTry thorough_fullTry
  have hFailed : ∀ runs ∈
      [fullTry.runs smallHub ()],
      ∃ r ∈ runs, r.result ≠ .ok () := by
    intro runs hMem
    rw [List.mem_singleton.1 hMem]
    exact ⟨_, .head _, nofun⟩
  have hRuns : ∀ r ∈
      freeTry.runs
        (fullTry.after smallHub () fullTry.resets).1 (),
      r.result = .ok () := by
    have hJournal :
        freeTry.runs
          (fullTry.after smallHub () fullTry.resets).1 () =
          [⟨1, .start, .ok ()⟩, ⟨2, .start, .ok ()⟩,
            ⟨0, .start, .ok ()⟩] :=
      rfl
    rw [hJournal]
    simp
  rcases (Tried.recovers smallHub_stopped hTried).2.2 freeTry
      hFailed hRuns with ⟨hResult, -, hPerm⟩
  exact ⟨_, _, hTried, hResult, hPerm⟩

end DeviceHub
