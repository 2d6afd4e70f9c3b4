import DeviceHub.Proofs.Lifecycle.Launching

/-
  The first start of a tree.

  No component has started yet, and it is settled beforehand
  whose hook will succeed.  Then it can be told of every
  component what becomes of it, which hooks run in what
  order, and what the root says in the end.

  Main statements:
    * `Tree.cold_start`
-/

namespace DeviceHub

namespace Tree

variable {κ σ : Type}

/- Hooks with fixed outcomes run with these. -/
theorem Launch.result_eq
    {hooks : Hooks κ σ}
    {outcome : κ → Except LifecycleError Unit}
    (hFixed : ∀ c s, (hooks c .start s).1 = outcome c.label)
    {t : Tree κ}
    {s : σ}
    {log : List (HookRun κ)}
    {runs : List (StartRun κ)}
    (hLaunch :
      Launch t log (start hooks.journaled t (s, log)) runs)
    {r : StartRun κ}
    (hRun : r ∈ runs) :
    r.result = outcome r.component.label := by
  have hAlike := alike_journaled hooks .start t s log
  rcases hAlike.state with ⟨-, entries, hLog, hGenuine⟩
  have hSame : runs.map StartRun.entry = entries :=
    List.append_cancel_left (hLaunch.journal.symm.trans hLog)
  have hEntry : r.entry ∈ entries := by
    rw [← hSame]
    exact List.mem_map_of_mem hRun
  rcases (hGenuine _ hEntry).told with ⟨c, s', hLabel, hTold⟩
  have hResult : (hooks c .start s').1 = r.result := hTold
  rw [← hResult, hFixed, hLabel]
  rfl

/- A component starts if its children do and its hook does. -/
theorem Fate.started_iff_outcome
    {reached ready : Prop}
    {ran : Except LifecycleError Unit → Prop}
    {c c' : Component κ}
    (hFate : Fate reached ready ran c c')
    (hStopped : c.status = .stopped)
    (hReached : reached)
    {result : Except LifecycleError Unit}
    (hResult : ∀ r, ran r → r = result) :
    c'.status = .started ↔ result = .ok () ∧ ready := by
  have hIdle : c.status ≠ .started := by
    rw [hStopped]
    decide
  rw [hFate.started_iff, or_iff_right hIdle]
  constructor
  · intro hRan
    exact ⟨(hResult _ hRan).symm,
      (hFate.exists_ran_iff.1 ⟨_, hRan⟩).2.2⟩
  · rintro ⟨rfl, hReady⟩
    rcases hFate.exists_ran_iff.2 ⟨hIdle, hReached, hReady⟩
      with ⟨r, hRan⟩
    rwa [hResult r hRan] at hRan

/-
  The start of a tree of stopped components.  Which
  components are reached is told from how it ends.  One that
  is reached ends started if its children do and its hook
  succeeds, and in error otherwise; one that is not stays as
  it is.  The hooks that run are those of the reached
  components whose children have all started, once each and
  children first.  The root has started if the answer says
  so; otherwise the answer is the complaint about the first
  hook that failed.
-/
theorem cold_start
    {t : Tree κ}
    (hCold : t.All fun c => c.status = .stopped)
    {hooks : Hooks κ σ}
    {outcome : κ → Except LifecycleError Unit}
    (hFixed : ∀ c s, (hooks c .start s).1 = outcome c.label)
    {s : σ}
    {o : Outcome κ (σ × List (HookRun κ))}
    (hStart : start hooks.journaled t (s, []) = o) :
    (∀ p, o.tree.component? p = none ↔
      t.component? p = none) ∧
    (∀ p c, t.component? p = some c →
      ∃ c', o.tree.component? p = some c' ∧
        (Reached t o.tree p →
          (c'.status = .started ↔
            outcome c.label = .ok () ∧
              o.tree.ChildrenStarted p) ∧
          (c'.status = .started ∨ c'.status = .error)) ∧
        (¬ Reached t o.tree p → c' = c)) ∧
    (o.tree.status = .started ↔
      ∃ status, o.result = .ok status) ∧
    ∃ ran : List (Address × Component κ),
      ran.Sublist t.tour ∧ (ran.map (·.1)).Nodup ∧
      (∀ p c, (p, c) ∈ ran ↔
        t.component? p = some c ∧ Reached t o.tree p ∧
          o.tree.ChildrenStarted p) ∧
      o.state.2 = ran.map (fun x =>
        ⟨x.2.label, .start, outcome x.2.label⟩) ∧
      ∀ e, o.result = .error e →
        o.tree.self.lastError = some e.message ∧
        ∃ before p c after failure,
          ran = before ++ (p, c) :: after ∧
          (∀ x ∈ before, outcome x.2.label = .ok ()) ∧
          outcome c.label = .error failure ∧
          e.message = t.blame failure.message p := by
  rcases launch_start hooks (warm_of_stopped hCold)
      (root_of_stopped hCold) (s, []) with ⟨runs, hLaunch⟩
  have hResult : ∀ r ∈ runs,
      r.result = outcome r.component.label :=
    fun r hRun => hLaunch.result_eq hFixed hRun
  have hPlaces := each_turn_start hooks.journaled t (s, [])
  rw [hStart] at hLaunch hPlaces
  refine ⟨hPlaces.eq_none_iff, ?_, ?_,
    runs.map StartRun.place, hLaunch.toured,
    (hLaunch.toured.map _).nodup (nodup_tour t), ?_, ?_, ?_⟩
  · intro p c hComponent
    rcases hLaunch.fate p c hComponent with ⟨c', hAfter, hFate⟩
    refine ⟨c', hAfter, fun hReached => ⟨?_, ?_⟩, ?_⟩
    · exact hFate.started_iff_outcome (hCold p c hComponent)
        hReached fun r hRan => hResult _ hRan
    · exact hFate.started_or_error hReached
    · exact fun hNot => hFate.eq_of_kept (.inr hNot)
  · exact hLaunch.started_iff
  · intro p c
    rw [hLaunch.mem_places_iff]
    refine and_congr_right fun hComponent => ?_
    rw [hCold p c hComponent]
    simp
  · rw [hLaunch.journal, List.nil_append, List.map_map]
    apply List.map_congr_left
    intro r hRun
    unfold StartRun.entry
    rw [hResult r hRun]
    rfl
  · intro e hError
    rcases hLaunch.exists_first_failure hError with
      ⟨before, r, after, failure, rfl, hBefore, hFailed, hText⟩
    refine ⟨(hLaunch.honest.error e hError).2,
      before.map StartRun.place, r.address, r.component,
      after.map StartRun.place, failure, List.map_append, ?_,
      ?_, hText⟩
    · intro x hMem
      rcases List.mem_map.1 hMem with ⟨y, hy, rfl⟩
      rw [← hBefore y hy]
      exact (hResult y (by simp [hy])).symm
    · rw [← hFailed]
      exact (hResult r (by simp)).symm

/- The pipeline of the small hub cannot start. -/
def fullPipeline : Nat → Except LifecycleError Unit
  | 1 => .error (.other "full")
  | _ => .ok ()

/- The hub gives up, and the router is not asked. -/
theorem cold_start_gives_up :
    ∃ (o : Outcome Nat (Unit × List (HookRun Nat)))
        (e : LifecycleError),
      start
        (Hooks.journaled fun c _ s =>
          (fullPipeline c.label, s))
        smallHub ((), []) = o ∧
      o.result = .error e ∧
      e.message =
        "Child 'pipeline' of 'hub' failed: " ++
          "Lifecycle error: full" ∧
      o.tree.self.lastError = some e.message ∧
      ¬ Reached smallHub o.tree [1] ∧
      o.tree.component? [1] = smallHub.component? [1] := by
  let hooks : Hooks Nat Unit :=
    fun c _ s => (fullPipeline c.label, s)
  have hFixed :
      ∀ c s, (hooks c .start s).1 = fullPipeline c.label :=
    fun _ _ => rfl
  rcases cold_start smallHub_stopped hFixed (s := ()) rfl with
    ⟨-, hAll, -, ran, -, -, -, -, hError⟩
  rcases hAll [1] _ rfl with ⟨c, hc, hReached, hNot⟩
  have hAside : ¬ Reached smallHub
      (start hooks.journaled smallHub ((), [])).tree [1] := by
    intro hTurn
    cases hc
    rcases (hReached hTurn).2 with hStatus | hStatus
    · cases hStatus
    · cases hStatus
  refine ⟨_, _, rfl, rfl, rfl, (hError _ rfl).1, hAside, ?_⟩
  rw [hc, hNot hAside]
  rfl

end Tree

end DeviceHub
