import DeviceHub.Proofs.Lifecycle.Launching

/-
  The stop of a component with all that runs below it.

  A stop goes down from a component to the children that run,
  from last to first, and does not look below one that does
  not run.  No failure holds it up: each component it comes
  to runs its hook, and ends in error if that hook or one
  below it has failed.

  Key definitions include:
    * `Tree.Live`
    * `Tree.StopsBefore`
    * `Tree.QuietBelow`
    * `Tree.Complaint`
    * `Tree.Shutdown`
    * `Tree.ShutdownAll`

  Main statements:
    * `Tree.live_cons_iff`
    * `Tree.stopAll_shutdownAll`
    * `Tree.shutdown_stop`
-/

namespace DeviceHub

namespace Tree

variable {κ σ : Type}

------------------------------------------------------------
-- Where a Stop Comes
------------------------------------------------------------

/-
  The places that a stop comes to: the root, and below a
  place that it comes to every child that runs.
-/
inductive Live
    (t : Tree κ) : Address → Prop where
  | root : Live t []
  | child
      {p : Address}
      {i : Nat}
      {status : Status}
      (hParent : Live t p)
      (hStatus : t.status? (p ++ [i]) = some status)
      (hRuns : status = .started ∨ status = .paused) :
      Live t (p ++ [i])

/- A place below a child is live in a child that runs. -/
theorem live_cons_iff
    {c : Component κ}
    {ts : List (Tree κ)}
    {i : Nat}
    {q : Address} :
    Live (node c ts) (i :: q) ↔
      ∃ u, ts[i]? = some u ∧ u.status.canStop = true ∧
        Live u q := by
  constructor
  · intro hLive
    -- Places are live from the root down, so the induction
    -- takes steps at the far end of the address.
    generalize hPlace : i :: q = p at hLive
    induction hLive generalizing q with
    | root => cases hPlace
    | @child p k status hParent hStatus hRuns ih =>
        cases p with
        | nil =>
            cases hPlace
            rw [List.nil_append, status?_cons] at hStatus
            rcases Option.bind_eq_some_iff.1 hStatus with
              ⟨u, hChild, hHere⟩
            cases hHere
            exact ⟨u, hChild, (canStop_iff _).2 hRuns, .root⟩
        | cons j p =>
            rw [List.cons_append, List.cons.injEq] at hPlace
            rcases hPlace with ⟨rfl, rfl⟩
            rcases ih rfl with ⟨u, hChild, hStop, hBelow⟩
            rw [List.cons_append,
              status?_cons_of_getElem? hChild] at hStatus
            exact ⟨u, hChild, hStop,
              .child hBelow hStatus hRuns⟩
  · rintro ⟨u, hChild, hStop, hLive⟩
    induction hLive with
    | root =>
        exact .child (p := []) .root
          (status?_cons_of_getElem? hChild [])
          ((canStop_iff _).1 hStop)
    | child _ hStatus hRuns ih =>
        rw [← List.cons_append]
        refine .child ih ?_ hRuns
        rw [List.cons_append, status?_cons_of_getElem? hChild]
        exact hStatus

/-
  The order of a stop: one place lies above the other, or the
  two lie below different children of a place and the first
  of them below the later child.
-/
def StopsBefore
    (p q : Address) : Prop :=
  (p <+: q ∧ p ≠ q) ∨
    ∃ r i j, i < j ∧ r ++ [j] <+: p ∧ r ++ [i] <+: q

theorem stopsBefore_root
    (i : Nat)
    (q : Address) :
    StopsBefore [] (i :: q) :=
  .inl ⟨List.nil_prefix, nofun⟩

theorem stopsBefore_of_later
    {i j : Nat}
    (hLater : i < j)
    (p q : Address) :
    StopsBefore (j :: p) (i :: q) :=
  .inr ⟨[], i, j, hLater, List.prefix_append [j] p,
    List.prefix_append [i] q⟩

theorem StopsBefore.below
    {p q : Address}
    (hBefore : StopsBefore p q)
    (i : Nat) :
    StopsBefore (i :: p) (i :: q) := by
  rcases hBefore with ⟨hAbove, hNe⟩ | ⟨r, j, k, hLater, hp, hq⟩
  · exact .inl ⟨List.cons_prefix_cons.2 ⟨rfl, hAbove⟩,
      fun hSame => hNe (List.cons.inj hSame).2⟩
  · exact .inr ⟨i :: r, j, k, hLater,
      List.cons_prefix_cons.2 ⟨rfl, hp⟩,
      List.cons_prefix_cons.2 ⟨rfl, hq⟩⟩

theorem StopsBefore.ne
    {p q : Address}
    (hBefore : StopsBefore p q) :
    p ≠ q := by
  rcases hBefore with ⟨-, hNe⟩ | ⟨r, i, j, hLater, hp, hq⟩
  · exact hNe
  · rintro rfl
    have hSame : r ++ [j] = r ++ [i] :=
      (List.prefix_of_prefix_length_le hp hq
        (by simp)).eq_of_length (by simp)
    have hLast : j = i := by
      simpa using hSame
    omega

------------------------------------------------------------
-- What Becomes of a Tree
------------------------------------------------------------

/-
  No hook has failed at a place or below it, as far as hooks
  have run there.
-/
def QuietBelow
    (runs : List (Address × HookRun κ))
    (p : Address) : Prop :=
  ∀ x ∈ runs, p <+: x.1 → x.2.result = .ok ()

/-
  What the root of a tree says if hooks have failed: why its
  own has, or else why the last of its children that has
  ended in error has done so.
-/
inductive Complaint
    (t t' : Tree κ)
    (runs : List (Address × HookRun κ)) :
    LifecycleError → Prop where
  | own
      {r : HookRun κ}
      {e : LifecycleError}
      (hRun : ([], r) ∈ runs)
      (hFailed : r.result = .error e) :
      Complaint t t' runs e
  | child
      {r : HookRun κ}
      {i : Nat}
      {c c' : Component κ}
      {text : String}
      (hRun : ([], r) ∈ runs)
      (hOwn : r.result = .ok ())
      (hLive : Live t [i])
      (hBefore : t.component? [i] = some c)
      (hAfter : t'.component? [i] = some c')
      (hError : c'.status = .error)
      (hText : c'.lastError = some text)
      (hLast : ∀ j > i, Live t [j] →
        t'.status? [j] ≠ some .error) :
      Complaint t t' runs
        (.childFailed t.self.name c.name text)

/-
  A stop as a whole: which hooks ran, where and in what order,
  and what became of every component.
-/
structure Shutdown
    (t : Tree κ)
    (log : List (HookRun κ))
    (o : Outcome κ (σ × List (HookRun κ)))
    (runs : List (Address × HookRun κ)) : Prop where
  journal : o.state.2 = log ++ runs.map (·.2)
  ordered : runs.Pairwise fun x y => StopsBefore x.1 y.1
  owned : ∀ x ∈ runs, x.2.hook = .stop ∧
    ∃ c, t.component? x.1 = some c ∧ c.label = x.2.label
  live : ∀ p, (∃ r, (p, r) ∈ runs) ↔ Live t p
  ended : ∀ p, Live t p →
    (QuietBelow runs p →
      o.tree.status? p = some .terminated) ∧
    (¬ QuietBelow runs p → o.tree.status? p = some .error)
  kept : ∀ p, ¬ Live t p →
    o.tree.component? p = t.component? p
  stopped : ∀ status, o.result = .ok status →
    status = .terminated
  honest : o.Honest
  complaint : ∀ e, o.result = .error e →
    Complaint t o.tree runs e

section Shutdowns

variable {t : Tree κ} {log : List (HookRun κ)}
variable {o : Outcome κ (σ × List (HookRun κ))}
variable {runs : List (Address × HookRun κ)}
variable (hShutdown : Shutdown t log o runs)

include hShutdown

/- No place is come to twice. -/
theorem Shutdown.nodup :
    (runs.map (·.1)).Nodup := by
  rw [List.Nodup, List.pairwise_map]
  exact hShutdown.ordered.imp fun hBefore => hBefore.ne

/- The root ends well just if no hook fails. -/
theorem Shutdown.status_root :
    ((∀ x ∈ runs, x.2.result = .ok ()) ∧
      o.tree.status = .terminated) ∨
    (¬ (∀ x ∈ runs, x.2.result = .ok ()) ∧
      o.tree.status = .error) := by
  have hAll : QuietBelow runs [] ↔
      ∀ x ∈ runs, x.2.result = .ok () :=
    forall₂_congr fun x _ => forall_prop_of_true List.nil_prefix
  rcases hShutdown.ended [] .root with ⟨hQuiet, hLoud⟩
  rw [hAll] at hQuiet hLoud
  by_cases hOk : ∀ x ∈ runs, x.2.result = .ok ()
  · exact .inl ⟨hOk, Option.some.inj (hQuiet hOk)⟩
  · exact .inr ⟨hOk, Option.some.inj (hLoud hOk)⟩

/- The answer is good just if no hook fails. -/
theorem Shutdown.result_iff :
    (∃ status, o.result = .ok status) ↔
      ∀ x ∈ runs, x.2.result = .ok () := by
  have hRoot := hShutdown.status_root
  cases hResult : o.result with
  | ok status =>
      refine iff_of_true ⟨status, rfl⟩ ?_
      have hStatus := hShutdown.honest.ok status hResult
      rw [hStatus, hShutdown.stopped status hResult] at hRoot
      exact (hRoot.resolve_right fun h => nomatch h.2).1
  | error e =>
      refine iff_of_false nofun fun hAll => ?_
      rw [(hShutdown.honest.error e hResult).1] at hRoot
      exact (hRoot.resolve_left fun h => nomatch h.2).1 hAll

end Shutdowns

------------------------------------------------------------
-- Children
------------------------------------------------------------

/- What a stop means for one of several children. -/
inductive ChildShutdown
    (parent : String)
    (u : Tree κ) :
    Tree κ → List (Address × HookRun κ) →
      Option LifecycleError → Prop where
  | kept
      (hIdle : u.status.canStop = false) :
      ChildShutdown parent u u [] none
  | stopped
      {log : List (HookRun κ)}
      {o : Outcome κ (σ × List (HookRun κ))}
      {runs : List (Address × HookRun κ)}
      (hRuns : u.status.canStop = true)
      (hShutdown : Shutdown u log o runs) :
      ChildShutdown parent u o.tree runs
        (reported parent u o.result)

/- A child has ended in error, and why its parent says so. -/
structure Blamed
    (parent : String)
    (u u' : Tree κ)
    (e : LifecycleError) : Prop where
  runs : u.status.canStop = true
  error : u'.status = .error
  told : ∃ text, u'.self.lastError = some text ∧
    e = .childFailed parent u.self.name text

section Children

variable {parent : String} {u u' : Tree κ}
variable {runs : List (Address × HookRun κ)}
variable {failure : Option LifecycleError}
variable (hChild :
  ChildShutdown (σ := σ) parent u u' runs failure)

include hChild

/- A child that runs is stopped as a whole. -/
theorem ChildShutdown.exists_shutdown
    (hRuns : u.status.canStop = true) :
    ∃ (log : List (HookRun κ))
        (o : Outcome κ (σ × List (HookRun κ))),
      Shutdown u log o runs ∧ u' = o.tree := by
  cases hChild with
  | kept hIdle =>
      rw [hRuns] at hIdle
      cases hIdle
  | @stopped log o _ _ hShutdown =>
      exact ⟨log, o, hShutdown, rfl⟩

theorem ChildShutdown.ordered :
    runs.Pairwise fun x y => StopsBefore x.1 y.1 := by
  cases hChild with
  | kept => exact .nil
  | stopped _ hShutdown => exact hShutdown.ordered

theorem ChildShutdown.owned :
    ∀ x ∈ runs, x.2.hook = .stop ∧
      ∃ c, u.component? x.1 = some c ∧
        c.label = x.2.label := by
  cases hChild with
  | kept => exact List.forall_mem_nil _
  | stopped _ hShutdown => exact hShutdown.owned

/- A child has no failure to report just if no hook fails. -/
theorem ChildShutdown.failure_eq_none_iff :
    failure = none ↔ ∀ x ∈ runs, x.2.result = .ok () := by
  cases hChild with
  | kept => exact iff_of_true rfl nofun
  | @stopped _ o _ _ hShutdown =>
      rw [← hShutdown.result_iff]
      cases o.result with
      | ok status => exact iff_of_true rfl ⟨status, rfl⟩
      | error e => exact iff_of_false nofun nofun

/- What is reported of a child is the error it ended in. -/
theorem ChildShutdown.blamed
    {e : LifecycleError}
    (hFailure : failure = some e) :
    Blamed parent u u' e := by
  cases hChild with
  | kept => cases hFailure
  | @stopped _ o _ hRuns hShutdown =>
      cases hResult : o.result with
      | ok status =>
          rw [hResult] at hFailure
          cases hFailure
      | error d =>
          rw [hResult] at hFailure
          cases hFailure
          rcases hShutdown.honest.error d hResult with
            ⟨hError, hText⟩
          exact ⟨hRuns, hError, _, hText, rfl⟩

/- A child in which no hook fails does not end in error. -/
theorem ChildShutdown.not_error
    (hRuns : u.status.canStop = true)
    (hQuiet : ∀ x ∈ runs, x.2.result = .ok ()) :
    u'.status ≠ .error := by
  rcases hChild.exists_shutdown hRuns with
    ⟨log, o, hShutdown, rfl⟩
  rcases hShutdown.status_root with ⟨-, hEnd⟩ | ⟨hNot, -⟩
  · rw [hEnd]
    decide
  · exact absurd hQuiet hNot

end Children

/- The same run of a hook in the tree of a parent. -/
def runBelow
    (i : Nat)
    (x : Address × HookRun κ) : Address × HookRun κ :=
  (i :: x.1, x.2)

theorem mem_map_runBelow_iff
    {i j : Nat}
    {q : Address}
    {r : HookRun κ}
    {runs : List (Address × HookRun κ)} :
    (i :: q, r) ∈ runs.map (runBelow j) ↔
      i = j ∧ (q, r) ∈ runs := by
  rw [List.mem_map]
  constructor
  · rintro ⟨x, hMem, hSame⟩
    cases hSame
    exact ⟨rfl, hMem⟩
  · rintro ⟨rfl, hMem⟩
    exact ⟨_, hMem, rfl⟩

theorem map_snd_runBelow
    (i : Nat)
    (runs : List (Address × HookRun κ)) :
    (runs.map (runBelow i)).map (·.2) = runs.map (·.2) := by
  rw [List.map_map]
  rfl

/-
  What a stop means for several children, the first of them
  at the place `first` below the parent.  The failure is that
  of the last child that has ended in error.
-/
structure ShutdownAll
    (parent : String)
    (first : Nat)
    (ts ts' : List (Tree κ))
    (runs : List (Address × HookRun κ))
    (failure : Option LifecycleError) : Prop where
  ordered : runs.Pairwise fun x y => StopsBefore x.1 y.1
  owned : ∀ x ∈ runs, x.2.hook = .stop ∧
    ∃ i q u c, x.1 = (first + i) :: q ∧ ts[i]? = some u ∧
      u.component? q = some c ∧ c.label = x.2.label
  length : ts'.length = ts.length
  each : ∀ i u, ts[i]? = some u →
    ∃ u' runs' failure',
      ts'[i]? = some u' ∧
      ChildShutdown (σ := σ) parent u u' runs' failure' ∧
      ∀ q r, ((first + i) :: q, r) ∈ runs ↔ (q, r) ∈ runs'
  quiet : failure = none ↔ ∀ x ∈ runs, x.2.result = .ok ()
  blame : ∀ e, failure = some e →
    ∃ (i : Nat) (u u' : Tree κ), ts[i]? = some u ∧
      ts'[i]? = some u' ∧ Blamed parent u u' e ∧
      ∀ (j : Nat) (v v' : Tree κ), i < j →
        ts[j]? = some v → ts'[j]? = some v' →
          v.status.canStop = true → v'.status ≠ .error

section Loop

variable {parent : String}

theorem ShutdownAll.nil
    (first : Nat) :
    ShutdownAll (κ := κ) (σ := σ) parent first [] [] []
      none where
  ordered := .nil
  owned := nofun
  length := rfl
  each := nofun
  quiet := iff_of_true rfl nofun
  blame := nofun

/- Without a failure no child ends in error. -/
theorem ShutdownAll.not_error
    {first : Nat}
    {ts ts' : List (Tree κ)}
    {runs : List (Address × HookRun κ)}
    (hAll :
      ShutdownAll (σ := σ) parent first ts ts' runs none)
    {i : Nat}
    {v v' : Tree κ}
    (hBefore : ts[i]? = some v)
    (hAfter : ts'[i]? = some v')
    (hRuns : v.status.canStop = true) :
    v'.status ≠ .error := by
  rcases hAll.each i v hBefore with
    ⟨w, runs', _, hHere, hChild, hMem⟩
  rw [hHere] at hAfter
  cases hAfter
  refine hChild.not_error hRuns ?_
  rintro ⟨q, r⟩ hRun
  exact hAll.quiet.1 rfl ((first + i) :: q, r)
    ((hMem q r).2 hRun)

/- A child is stopped when those after it have been. -/
theorem ShutdownAll.cons
    {first : Nat}
    {u u' : Tree κ}
    {rest rest' : List (Tree κ)}
    {runs later : List (Address × HookRun κ)}
    {failure failures : Option LifecycleError}
    (hHead : ChildShutdown (σ := σ) parent u u' runs failure)
    (hRest : ShutdownAll (σ := σ) parent (first + 1) rest
      rest' later failures) :
    ShutdownAll (σ := σ) parent first (u :: rest)
      (u' :: rest') (later ++ runs.map (runBelow first))
      (failures.or failure) where
  ordered := by
    rw [List.pairwise_append, List.pairwise_map]
    refine ⟨hRest.ordered, hHead.ordered.imp fun hBefore =>
      hBefore.below first, ?_⟩
    intro x hx y hy
    rcases (hRest.owned x hx).2 with ⟨i, q, _, _, hPlace, -⟩
    rcases List.mem_map.1 hy with ⟨z, -, rfl⟩
    rw [hPlace]
    exact stopsBefore_of_later (by omega) q z.1
  owned := by
    intro x hx
    rcases List.mem_append.1 hx with hLater | hHere
    · rcases hRest.owned x hLater with
        ⟨hHook, i, q, v, c, hPlace, hChild, hComponent⟩
      refine ⟨hHook, i + 1, q, v, c, ?_, hChild, hComponent⟩
      rw [hPlace, Nat.add_assoc, Nat.add_comm 1 i]
    · rcases List.mem_map.1 hHere with ⟨y, hy, rfl⟩
      rcases hHead.owned y hy with ⟨hHook, c, hComponent⟩
      exact ⟨hHook, 0, y.1, u, c, rfl, rfl, hComponent⟩
  length := congrArg (· + 1) hRest.length
  each := by
    intro i v hChild
    cases i with
    | zero =>
        -- No place of a later child begins with `first`.
        cases hChild
        refine ⟨u', runs, failure, rfl, hHead, ?_⟩
        intro q r
        rw [List.mem_append, Nat.add_zero,
          mem_map_runBelow_iff, and_iff_right rfl]
        refine or_iff_right fun hLater => ?_
        rcases (hRest.owned _ hLater).2 with
          ⟨i, _, _, _, hPlace, -⟩
        have hFirst : first = first + 1 + i :=
          (List.cons.inj hPlace).1
        omega
    | succ i =>
        rcases hRest.each i v hChild with
          ⟨v', runs', failure', hAfter, hFate, hMem⟩
        refine ⟨v', runs', failure', hAfter, hFate, ?_⟩
        intro q r
        rw [List.mem_append, mem_map_runBelow_iff, ← hMem,
          Nat.add_assoc, Nat.add_comm 1 i]
        exact or_iff_left fun hHere => by omega
  quiet := by
    rw [Option.or_eq_none_iff, hRest.quiet,
      hHead.failure_eq_none_iff, List.forall_mem_append,
      List.forall_mem_map]
    rfl
  blame := by
    intro e hFailure
    cases failures with
    | some d =>
        cases hFailure
        rcases hRest.blame _ rfl with
          ⟨i, v, v', hBefore, hAfter, hBlamed, hLast⟩
        refine ⟨i + 1, v, v', hBefore, hAfter, hBlamed, ?_⟩
        intro j w w' hj hw hw'
        cases j with
        | zero => omega
        | succ j => exact hLast j w w' (by omega) hw hw'
    | none =>
        refine ⟨0, u, u', rfl, rfl, hHead.blamed hFailure, ?_⟩
        intro j w w' hj hw hw'
        cases j with
        | zero => omega
        | succ j => exact hRest.not_error hw hw'

/- The stop of several children, if each stop is a shutdown. -/
theorem stopAll_shutdownAll
    {hooks : Hooks κ σ}
    {ts : List (Tree κ)}
    (hEach : ∀ t ∈ ts, t.status.canStop = true →
      ∀ s : σ × List (HookRun κ), ∃ runs,
        Shutdown t s.2 (stop hooks.journaled t s) runs)
    (parent : String)
    (first : Nat)
    (s : σ × List (HookRun κ)) :
    ∃ runs,
      ShutdownAll (σ := σ) parent first ts
        (stopAll hooks.journaled parent ts s).trees runs
        (stopAll hooks.journaled parent ts s).failure ∧
      (stopAll hooks.journaled parent ts s).state.2 =
        s.2 ++ runs.map (·.2) := by
  induction ts generalizing first with
  | nil =>
      unfold stopAll
      exact ⟨[], .nil first, (List.append_nil _).symm⟩
  | cons t rest ih =>
      rcases ih (fun u hu => hEach u (.tail _ hu)) (first + 1)
        with ⟨later, hRest, hLog⟩
      unfold stopAll
      cases hRuns : t.status.canStop with
      | false =>
          have hAll := hRest.cons (.kept hRuns)
          rw [List.map_nil, List.append_nil, Option.or_none]
            at hAll
          exact ⟨later, hAll, hLog⟩
      | true =>
          rcases hEach t (.head _) hRuns
            (stopAll hooks.journaled parent rest s).state
            with ⟨runs, hHead⟩
          have hAll := hRest.cons (.stopped hRuns hHead)
          have hJournal := hHead.journal
          rw [hLog, List.append_assoc,
            ← map_snd_runBelow first runs,
            ← List.map_append]
            at hJournal
          simp only [if_true]
          cases hResult : (stop hooks.journaled t
              (stopAll hooks.journaled parent rest s).state
              ).result with
          | ok status =>
              rw [hResult] at hAll
              unfold reported at hAll
              rw [Option.or_none] at hAll
              exact ⟨_, hAll, hJournal⟩
          | error e =>
              rw [hResult] at hAll
              exact ⟨_, hAll, hJournal⟩

end Loop

------------------------------------------------------------
-- The Whole Stop
------------------------------------------------------------

/- The ways in which the stop of one that runs can go. -/
theorem stop_of_running
    (hooks : Hooks κ σ)
    {c : Component κ}
    (hRuns : c.status.canStop = true)
    (ts : List (Tree κ))
    (s : σ) :
    ∃ own s' r,
      hooks (c.record .stopping "stop requested") .stop s =
        (own, s') ∧
      r = stopAll hooks c.name ts s' ∧
      ((own = .ok () ∧ r.failure = none ∧
        stop hooks (node c ts) s =
          reached (c.record .stopping "stop requested")
            r.trees .terminated "stopped" r.state) ∨
      ∃ e, (own = .error e ∨
          (own = .ok () ∧ r.failure = some e)) ∧
        stop hooks (node c ts) s =
          failed (c.record .stopping "stop requested")
            r.trees e r.state) := by
  refine ⟨_, _, _, rfl, rfl, ?_⟩
  unfold stop
  simp only [hRuns, if_true]
  cases hOwn : (hooks (c.record .stopping "stop requested")
      .stop s).1 with
  | error e => exact .inr ⟨e, .inl rfl, rfl⟩
  | ok =>
      cases hFailure : (stopAll hooks c.name ts
          (hooks (c.record .stopping "stop requested")
            .stop s).2).failure with
      | none => exact .inl ⟨rfl, rfl, rfl⟩
      | some e => exact .inr ⟨e, .inr ⟨rfl, rfl⟩, rfl⟩

section Root

variable {c c' : Component κ} {ts ts' : List (Tree κ)}
variable {runs : List (Address × HookRun κ)}
variable {own : Except LifecycleError Unit}
variable {failure : Option LifecycleError}
variable (hAll : ShutdownAll (σ := σ) c.name 0 ts ts' runs
  failure)

include hAll

/- Where hooks run below the root, components are live. -/
theorem ShutdownAll.exists_run_iff
    {i : Nat}
    {q : Address} :
    (∃ r, (i :: q, r) ∈ runs) ↔
      Live (node c ts) (i :: q) := by
  rw [live_cons_iff]
  constructor
  · rintro ⟨r, hRun⟩
    rcases (hAll.owned _ hRun).2 with
      ⟨j, _, u, _, hPlace, hBefore, -⟩
    rw [List.cons.injEq, Nat.zero_add] at hPlace
    rcases hPlace with ⟨rfl, rfl⟩
    rcases hAll.each i u hBefore with
      ⟨u', runs', _, -, hChild, hMem⟩
    rw [← Nat.zero_add i, hMem] at hRun
    cases hChild with
    | kept => cases hRun
    | stopped hRuns hShutdown =>
        exact ⟨u, hBefore, hRuns,
          (hShutdown.live q).1 ⟨r, hRun⟩⟩
  · rintro ⟨u, hBefore, hRuns, hLive⟩
    rcases hAll.each i u hBefore with
      ⟨u', runs', _, -, hChild, hMem⟩
    rcases hChild.exists_shutdown hRuns with
      ⟨log, o, hShutdown, -⟩
    rcases (hShutdown.live q).2 hLive with ⟨r, hRun⟩
    refine ⟨r, ?_⟩
    rw [← Nat.zero_add i]
    exact (hMem q r).2 hRun

/- What is quiet below a child is so in the whole tree. -/
theorem ShutdownAll.quietBelow_iff
    {i : Nat}
    {runs' : List (Address × HookRun κ)}
    (hMem : ∀ q r,
      ((0 + i) :: q, r) ∈ runs ↔ (q, r) ∈ runs')
    (r : HookRun κ)
    (q : Address) :
    QuietBelow (([], r) :: runs) (i :: q) ↔
      QuietBelow runs' q := by
  rw [Nat.zero_add] at hMem
  constructor
  · rintro hQuiet ⟨p, x⟩ hRun hPrefix
    exact hQuiet (i :: p, x) (.tail _ ((hMem p x).2 hRun))
      (List.cons_prefix_cons.2 ⟨rfl, hPrefix⟩)
  · rintro hQuiet ⟨p, x⟩ hRun hPrefix
    rcases List.mem_cons.1 hRun with hRoot | hBelow
    · cases hRoot
      exact absurd (List.prefix_nil.1 hPrefix) nofun
    · rcases (hAll.owned _ hBelow).2 with
        ⟨j, p', _, _, hPlace, -⟩
      cases hPlace
      rcases List.cons_prefix_cons.1 hPrefix with
        ⟨hSame, hRest⟩
      rw [← hSame] at hBelow
      exact hQuiet (p', x) ((hMem p' x).1 hBelow) hRest

theorem ShutdownAll.ended
    {i : Nat}
    {q : Address}
    (hLive : Live (node c ts) (i :: q))
    (r : HookRun κ) :
    (QuietBelow (([], r) :: runs) (i :: q) →
      (node c' ts').status? (i :: q) = some .terminated) ∧
    (¬ QuietBelow (([], r) :: runs) (i :: q) →
      (node c' ts').status? (i :: q) = some .error) := by
  rcases live_cons_iff.1 hLive with
    ⟨u, hBefore, hRuns, hBelow⟩
  rcases hAll.each i u hBefore with
    ⟨u', runs', _, hAfter, hChild, hMem⟩
  rcases hChild.exists_shutdown hRuns with
    ⟨log, o, hShutdown, rfl⟩
  rw [hAll.quietBelow_iff hMem,
    status?_cons_of_getElem? hAfter]
  exact hShutdown.ended q hBelow

theorem ShutdownAll.kept
    {i : Nat}
    {q : Address}
    (hNot : ¬ Live (node c ts) (i :: q)) :
    (node c' ts').component? (i :: q) =
      (node c ts).component? (i :: q) := by
  rw [component?_cons, component?_cons]
  cases hBefore : ts[i]? with
  | none =>
      rw [List.getElem?_eq_none_iff, ← hAll.length,
        ← List.getElem?_eq_none_iff] at hBefore
      rw [hBefore]
  | some u =>
      rcases hAll.each i u hBefore with
        ⟨u', runs', _, hAfter, hChild, -⟩
      rw [hAfter]
      cases hChild with
      | kept => rfl
      | stopped hRuns hShutdown =>
          refine hShutdown.kept q fun hLive => hNot ?_
          exact live_cons_iff.2 ⟨u, hBefore, hRuns, hLive⟩

/- The root complains of its own hook, or of a child. -/
theorem ShutdownAll.complaint
    {e : LifecycleError}
    (hCause : own = .error e ∨
      (own = .ok () ∧ failure = some e)) :
    Complaint (node c ts) (node c' ts')
      (([], ⟨c.label, .stop, own⟩) :: runs) e := by
  rcases hCause with hOwn | ⟨hOwn, hFailure⟩
  · exact .own (.head _) hOwn
  · rcases hAll.blame e hFailure with
      ⟨i, u, u', hBefore, hAfter, hBlamed, hLast⟩
    rcases hBlamed.told with ⟨text, hText, rfl⟩
    refine .child (.head _) hOwn
      (live_cons_iff.2 ⟨u, hBefore, hBlamed.runs, .root⟩)
      ?_ ?_ hBlamed.error hText ?_
    · rw [component?_cons, hBefore]
      rfl
    · rw [component?_cons, hAfter]
      rfl
    · intro j hj hLive hError
      rcases live_cons_iff.1 hLive with ⟨v, hv, hRuns, -⟩
      rcases hAll.each j v hv with ⟨v', _, _, hv', -, -⟩
      rw [status?_cons_of_getElem? hv'] at hError
      exact hLast j v v' hj hv hv' hRuns
        (Option.some.inj hError)

/-
  A shutdown put together from what became of the children
  and of the component itself.
-/
theorem ShutdownAll.shutdown
    {log : List (HookRun κ)}
    {o : Outcome κ (σ × List (HookRun κ))}
    (hTree : o.tree = node c' ts')
    (hJournal : o.state.2 =
      log ++ ⟨c.label, .stop, own⟩ :: runs.map (·.2))
    (hQuiet : own = .ok () ∧ failure = none →
      c'.status = .terminated)
    (hLoud : ¬ (own = .ok () ∧ failure = none) →
      c'.status = .error)
    (hStopped : ∀ status, o.result = .ok status →
      status = .terminated)
    (hHonest : o.Honest)
    (hCause : ∀ e, o.result = .error e → own = .error e ∨
      (own = .ok () ∧ failure = some e)) :
    Shutdown (node c ts) log o
      (([], ⟨c.label, .stop, own⟩) :: runs) where
  journal := hJournal
  ordered := by
    refine List.pairwise_cons.2 ⟨?_, hAll.ordered⟩
    intro x hx
    rcases (hAll.owned x hx).2 with ⟨i, q, _, _, hPlace, -⟩
    rw [hPlace]
    exact stopsBefore_root (0 + i) q
  owned := by
    intro x hx
    rcases List.mem_cons.1 hx with rfl | hBelow
    · exact ⟨rfl, c, rfl, rfl⟩
    · rcases hAll.owned x hBelow with
        ⟨hHook, i, q, u, d, hPlace, hChild, hd, hLabel⟩
      refine ⟨hHook, d, ?_, hLabel⟩
      rw [hPlace, Nat.zero_add]
      exact component?_cons_eq_some_iff.2 ⟨u, hChild, hd⟩
  live := by
    intro p
    cases p with
    | nil => exact iff_of_true ⟨_, .head _⟩ .root
    | cons i q =>
        rw [← hAll.exists_run_iff]
        simp
  ended := by
    intro p hLive
    rw [hTree]
    cases p with
    | nil =>
        have hAllQuiet : QuietBelow
            (([], ⟨c.label, .stop, own⟩) :: runs) [] ↔
              own = .ok () ∧ failure = none := by
          rw [hAll.quiet]
          unfold QuietBelow
          simp only [List.nil_prefix, true_implies,
            List.forall_mem_cons]
        rw [hAllQuiet]
        exact ⟨fun h => congrArg some (hQuiet h),
          fun h => congrArg some (hLoud h)⟩
    | cons i q => exact hAll.ended hLive _
  kept := by
    intro p hNot
    rw [hTree]
    cases p with
    | nil => exact absurd .root hNot
    | cons i q => exact hAll.kept hNot
  stopped := hStopped
  honest := hHonest
  complaint := by
    intro e hResult
    rw [hTree]
    exact hAll.complaint (hCause e hResult)

end Root

/- The stop of one that runs is a shutdown. -/
theorem shutdown_stop
    (hooks : Hooks κ σ)
    {t : Tree κ}
    (hRuns : t.status.canStop = true)
    (s : σ × List (HookRun κ)) :
    ∃ runs,
      Shutdown t s.2 (stop hooks.journaled t s) runs := by
  induction t generalizing s with
  | node c ts ih =>
      rw [status_node] at hRuns
      rcases stop_of_running hooks.journaled hRuns ts s with
        ⟨own, s', r, hOwn, rfl, hWay⟩
      have hLast := journaled_log hOwn
      rcases stopAll_shutdownAll
          (fun t ht hRuns s => ih t ht hRuns s) c.name 0 s'
        with ⟨runs, hAll, hLog⟩
      have hJournal :
          (stopAll hooks.journaled c.name ts s').state.2 =
            s.2 ++ ⟨c.label, .stop, own⟩ ::
              runs.map (·.2) := by
        rw [hLog, hLast, List.append_assoc]
        rfl
      refine ⟨([], ⟨c.label, .stop, own⟩) :: runs, ?_⟩
      rcases hWay with ⟨hOk, hNone, hStop⟩ |
        ⟨e, hCause, hStop⟩
      · rw [hStop]
        exact hAll.shutdown rfl hJournal (fun _ => rfl)
          (fun hNot => absurd ⟨hOk, hNone⟩ hNot)
          (fun status hStatus => (Except.ok.inj hStatus).symm)
          (honest_of_ok rfl) (fun _ hError => nomatch hError)
      · rw [hStop]
        refine hAll.shutdown rfl hJournal ?_ (fun _ => rfl)
          (fun _ hStatus => nomatch hStatus)
          (honest_failed _ _ e _) ?_
        · rintro ⟨hOk, hNone⟩
          rcases hCause with hError | ⟨-, hSome⟩
          · rw [hOk] at hError
            cases hError
          · rw [hNone] at hSome
            cases hSome
        · intro d hError
          cases hError
          exact hCause

end Tree

end DeviceHub
