import DeviceHub.Proofs.Lifecycle.Launch

/-
  Every start of a tree at rest is a launch.

  The loop over the children is followed child by child: the
  turn of each comes as long as the loop is going, and what
  the parent does is settled by what became of them all.

  Key definitions include:
    * `Tree.ChildFate`
    * `Tree.LaunchAll`

  Main statements:
    * `Tree.LaunchAll.cons`
    * `Tree.StartLoop.launchAll`
    * `Tree.LaunchAll.launch`
    * `Tree.launch_start`
-/

namespace DeviceHub

namespace Tree

variable {κ σ : Type}

------------------------------------------------------------
-- One Child
------------------------------------------------------------

/- What a parent reports of the answer of a child. -/
def reported
    (parent : String)
    (u : Tree κ) :
    Except LifecycleError Status → Option LifecycleError
  | .ok _ => none
  | .error e => some (childFailure parent u e)

/- What a launch means for one of several children. -/
inductive ChildFate
    (turn : Prop)
    (parent : String)
    (u : Tree κ) :
    Tree κ → List (StartRun κ) →
      Option LifecycleError → Prop where
  | kept
      (hKept : u.status = .started ∨ ¬ turn) :
      ChildFate turn parent u u [] none
  | launched
      {log : List (HookRun κ)}
      {o : Outcome κ (σ × List (HookRun κ))}
      {runs : List (StartRun κ)}
      (hTurn : turn)
      (hLaunch : Launch u log o runs) :
      ChildFate turn parent u o.tree runs
        (reported parent u o.result)

theorem ChildFate.of_result
    {turn : Prop}
    {u : Tree κ}
    {log : List (HookRun κ)}
    {o : Outcome κ (σ × List (HookRun κ))}
    {runs : List (StartRun κ)}
    {result : Except LifecycleError Status}
    (hTurn : turn)
    (hLaunch : Launch u log o runs)
    (hResult : o.result = result)
    (parent : String) :
    ChildFate (σ := σ) turn parent u o.tree runs
      (reported parent u result) := by
  rw [← hResult]
  exact .launched hTurn hLaunch

section Children

variable {turn : Prop} {parent : String} {u u' : Tree κ}
variable {runs : List (StartRun κ)}
variable {failure : Option LifecycleError}
variable
  (hFate : ChildFate (σ := σ) turn parent u u' runs failure)

include hFate

/- A child has no failure to report just if it has started. -/
theorem ChildFate.failure_eq_none_iff
    (hTurn : turn) :
    failure = none ↔ u'.status = .started := by
  cases hFate with
  | kept hKept =>
      rcases hKept with hStarted | hNot
      · exact iff_of_true rfl hStarted
      · exact absurd hTurn hNot
  | @launched _ o _ _ hLaunch =>
      rw [hLaunch.started_iff]
      cases o.result with
      | ok status => exact iff_of_true rfl ⟨status, rfl⟩
      | error e => exact iff_of_false nofun nofun

theorem ChildFate.toured :
    (runs.map StartRun.place).Sublist u.tour := by
  cases hFate with
  | kept => exact List.nil_sublist _
  | launched _ hLaunch => exact hLaunch.toured

/- What a parent tells of its child is the child's complaint. -/
theorem ChildFate.message_eq :
    failure.map (·.message) =
      (runs.findSome? (StartRun.complaint u)).map
        (childText parent u.self.name) := by
  cases hFate with
  | kept => rfl
  | @launched _ o _ _ hLaunch =>
      rw [← hLaunch.complaint]
      unfold Outcome.complaint?
      cases o.result with
      | ok status => rfl
      | error e => rfl

end Children

------------------------------------------------------------
-- Several Children
------------------------------------------------------------

/-
  What a launch means for several children, the first of them
  at the place `first` below the parent.  Their turn comes if
  the loop is still going.
-/
structure LaunchAll
    (going : Prop)
    (parent : String)
    (policy : ChildPolicy)
    (first : Nat)
    (ts ts' : List (Tree κ))
    (runs : List (StartRun κ))
    (failure : Option LifecycleError) : Prop where
  toured :
    (runs.map StartRun.place).Sublist (tourAll first ts)
  each : ∀ i u, ts[i]? = some u →
    ∃ u' runs' failure',
      ts'[i]? = some u' ∧
      ChildFate (σ := σ) (going ∧ Comes policy ts' i) parent u
        u' runs' failure' ∧
      ∀ r : StartRun κ, r.below (first + i) ∈ runs ↔ r ∈ runs'
  complaint : ∀ (c : Component κ) (all : List (Tree κ)),
    c.name = parent → (∀ i, all[first + i]? = ts[i]?) →
    failure.map (·.message) =
      runs.findSome? (StartRun.complaint (node c all))
  started : going →
    (failure = none ↔ ∀ u ∈ ts', u.status = .started)

/- The places below a later child are not those of this one. -/
theorem below_not_mem
    {first : Nat}
    {ts : List (Tree κ)}
    {runs : List (StartRun κ)}
    (hToured :
      (runs.map StartRun.place).Sublist
        (tourAll (first + 1) ts))
    (r : StartRun κ) :
    r.below first ∉ runs := by
  intro hMem
  have hPlace :=
    hToured.subset (List.mem_map_of_mem hMem)
  rcases mem_tourAll_iff.1 hPlace with ⟨i, p, t, hp, -, -⟩
  have hHead : first = first + 1 + i :=
    (List.cons.inj hp).1
  omega

section Loop

variable {parent : String} {policy : ChildPolicy}

theorem LaunchAll.nil
    (going : Prop)
    (first : Nat) :
    LaunchAll (κ := κ) (σ := σ) going parent policy first
      [] [] [] none where
  toured := List.nil_sublist _
  each := by
    intro i u hChild
    cases hChild
  complaint := by
    intro c all _ _
    rfl
  started := by
    intro _
    simp

/- Children whose turn never comes stay as they are. -/
theorem LaunchAll.closed
    {going : Prop}
    (hClosed : ¬ going)
    (first : Nat)
    (ts : List (Tree κ)) :
    LaunchAll (σ := σ) going parent policy first ts ts []
      none where
  toured := List.nil_sublist _
  each := by
    intro i u hChild
    refine ⟨u, [], none, hChild, .kept (.inr ?_), ?_⟩
    · exact fun hTurn => hClosed hTurn.1
    · exact fun r => iff_of_false List.not_mem_nil
        List.not_mem_nil
  complaint := by
    intro c all _ _
    rfl
  started := fun hGoing => absurd hGoing hClosed

/-
  A child and those after it, whose turns come if failures do
  not count or this child has started.
-/
theorem LaunchAll.cons
    {going : Prop}
    {first : Nat}
    {u u' : Tree κ}
    {rest rest' : List (Tree κ)}
    {runs later : List (StartRun κ)}
    {failure failures : Option LifecycleError}
    (hHead : ChildFate (σ := σ) going parent u u' runs failure)
    (hRest : LaunchAll (σ := σ)
      (going ∧ (policy = .continue ∨ u'.status = .started))
      parent policy (first + 1) rest rest' later failures) :
    LaunchAll (σ := σ) going parent policy first (u :: rest)
      (u' :: rest')
      (runs.map (StartRun.below first) ++ later)
      (failure.or failures) where
  toured := by
    rw [List.map_append, List.map_map]
    unfold tourAll
    refine List.Sublist.append ?_ hRest.toured
    have hPlaces := hHead.toured.map
      fun x => (first :: x.1, x.2)
    rwa [List.map_map] at hPlaces
  each := by
    intro i v hChild
    cases i with
    | zero =>
        -- No place of a later child begins with `first`.
        cases hChild
        refine ⟨u', runs, failure, rfl, ?_, ?_⟩
        · rwa [and_iff_left (comes_zero policy _)]
        · intro r
          rw [List.mem_append, Nat.add_zero,
            StartRun.mem_map_below_iff]
          simp [below_not_mem hRest.toured r]
    | succ i =>
        rcases hRest.each i v hChild with
          ⟨v', runs', failure', hAfter, hFate, hRuns⟩
        refine ⟨v', runs', failure', hAfter, ?_, ?_⟩
        · rwa [comes_cons_succ_iff, ← and_assoc]
        · intro r
          rw [List.mem_append, StartRun.mem_map_below_iff,
            ← hRuns, Nat.add_assoc, Nat.add_comm 1 i]
          simp
  complaint := by
    intro c all hName hAll
    have hHere : all[first]? = some u := hAll 0
    rw [List.findSome?_append, List.findSome?_map,
      ← hRest.complaint c all hName ?_, Option.map_or,
      hHead.message_eq, List.map_findSome?, ← hName]
    · congr 2
      exact funext fun r =>
        (StartRun.complaint_below hHere r).symm
    · intro i
      rw [Nat.add_assoc, Nat.add_comm 1 i]
      exact hAll (i + 1)
  started := by
    intro hGoing
    rw [Option.or_eq_none_iff,
      hHead.failure_eq_none_iff hGoing, List.forall_mem_cons]
    refine and_congr_right fun hStarted => ?_
    exact hRest.started ⟨hGoing, .inr hStarted⟩

/- The journal of a child goes before those of the others. -/
theorem LaunchAll.cons_journal
    {going : Prop}
    {first : Nat}
    {u u' : Tree κ}
    {rest rest' : List (Tree κ)}
    {runs : List (StartRun κ)}
    {failure failures : Option LifecycleError}
    (hHead : ChildFate (σ := σ) going parent u u' runs failure)
    {log log' log'' : List (HookRun κ)}
    (hLog : log' = log ++ runs.map StartRun.entry)
    (hRest : ∃ later,
      LaunchAll (σ := σ)
        (going ∧ (policy = .continue ∨ u'.status = .started))
        parent policy (first + 1) rest rest' later failures ∧
      log'' = log' ++ later.map StartRun.entry) :
    ∃ all,
      LaunchAll (σ := σ) going parent policy first (u :: rest)
        (u' :: rest') all (failure.or failures) ∧
      log'' = log ++ all.map StartRun.entry := by
  rcases hRest with ⟨later, hRest, hLater⟩
  refine ⟨_, .cons hHead hRest, ?_⟩
  rw [hLater, hLog, List.map_append, StartRun.map_entry_below,
    List.append_assoc]

/- The start of several children, if each start is a launch. -/
theorem StartLoop.launchAll
    {hooks : Hooks κ σ}
    {ts : List (Tree κ)}
    {s : σ × List (HookRun κ)}
    {r : ChildrenOutcome κ (σ × List (HookRun κ))}
    (hLoop : StartLoop hooks.journaled parent policy ts s r)
    (hLaunch : ∀ t ∈ ts, t.status ≠ .started →
      ∀ s : σ × List (HookRun κ), ∃ runs,
        Launch t s.2 (start hooks.journaled t s) runs)
    {going : Prop}
    (hGoing : going)
    (first : Nat) :
    ∃ runs,
      LaunchAll (σ := σ) going parent policy first ts r.trees
        runs r.failure ∧
      r.state.2 = s.2 ++ runs.map StartRun.entry := by
  -- Whether the loop is still going changes with every child,
  -- so the induction is over all such conditions.
  induction hLoop generalizing going first with
  | done =>
      exact ⟨[], .nil going first, (List.append_nil _).symm⟩
  | skip hStarted _ ih =>
      refine LaunchAll.cons_journal (.kept (.inl hStarted))
        (List.append_nil _).symm (ih ?_ ?_ _)
      · exact fun t ht => hLaunch t (.tail _ ht)
      · exact ⟨hGoing, .inr hStarted⟩
  | @started t _ s _ _ hStatus hResult _ ih =>
      rcases hLaunch t (.head _) hStatus s with ⟨runs, hHead⟩
      have hFate :=
        ChildFate.of_result hGoing hHead hResult parent
      refine LaunchAll.cons_journal hFate hHead.journal
        (ih ?_ ?_ _)
      · exact fun t ht => hLaunch t (.tail _ ht)
      · exact ⟨hGoing,
          .inr ((hFate.failure_eq_none_iff hGoing).1 rfl)⟩
  | @halted t _ s e hStatus hResult hPolicy =>
      rcases hLaunch t (.head _) hStatus s with ⟨runs, hHead⟩
      have hFate :=
        ChildFate.of_result hGoing hHead hResult parent
      refine LaunchAll.cons_journal hFate hHead.journal
        ⟨[], .closed ?_ _ _, (List.append_nil _).symm⟩
      rintro ⟨-, hContinue | hStarted⟩
      · rw [hPolicy] at hContinue
        cases hContinue
      · have hNone :=
          (hFate.failure_eq_none_iff hGoing).2 hStarted
        cases hNone
  | @failed t _ s _ e hStatus hResult hPolicy _ ih =>
      rcases hLaunch t (.head _) hStatus s with ⟨runs, hHead⟩
      have hFate :=
        ChildFate.of_result hGoing hHead hResult parent
      refine LaunchAll.cons_journal hFate hHead.journal
        (ih ?_ ?_ _)
      · exact fun t ht => hLaunch t (.tail _ ht)
      · exact ⟨hGoing, .inl hPolicy⟩

/- What becomes of the components below the children. -/
theorem LaunchAll.fate
    {c c' : Component κ}
    {ts ts' : List (Tree κ)}
    {runs own : List (StartRun κ)}
    {failure : Option LifecycleError}
    (hAll : LaunchAll (σ := σ) True c.name c.policy 0 ts ts'
      runs failure)
    (hSupported : ∀ u ∈ ts, u.Supported)
    (hOwn : ∀ r ∈ own, r.address = [])
    {i : Nat}
    {q : Address}
    {d : Component κ}
    (hComponent : (node c ts).component? (i :: q) = some d) :
    ∃ d', (node c' ts').component? (i :: q) = some d' ∧
      Fate (Reached (node c ts) (node c' ts') (i :: q))
        ((node c' ts').ChildrenStarted (i :: q))
        (fun r => ⟨i :: q, d, r⟩ ∈ runs ++ own) d d' := by
  rcases component?_cons_eq_some_iff.1 hComponent with
    ⟨u, hChild, hBelow⟩
  rcases hAll.each i u hChild with
    ⟨u', runs', _, hAfter, hFate, hMem⟩
  have hRuns : ∀ r,
      (⟨q, d, r⟩ : StartRun κ) ∈ runs' ↔
        ⟨i :: q, d, r⟩ ∈ runs ++ own := by
    intro r
    rw [List.mem_append, ← hMem, Nat.zero_add]
    refine ⟨.inl, fun hRun => hRun.resolve_right ?_⟩
    intro hSelf
    cases hOwn _ hSelf
  cases hFate with
  | launched hTurn hLaunch =>
      rcases hLaunch.fate q d hBelow with ⟨d', hd', hFate⟩
      refine ⟨d', component?_cons_eq_some_iff.2
        ⟨_, hAfter, hd'⟩, hFate.congr ?_ ?_ hRuns⟩
      · rw [reached_cons_iff hChild hAfter,
          and_iff_right hTurn.2]
      · exact (childrenStarted_cons_iff hAfter q).symm
  | kept hKept =>
      -- Either everything below the child has started before,
      -- or nothing below it is reached.
      refine ⟨d, component?_cons_eq_some_iff.2
        ⟨u, hAfter, hBelow⟩, .kept ?_ ?_⟩
      · rw [reached_cons_iff hChild hAfter]
        rcases hKept with hStarted | hNot
        · have hStatus : u.status? ([] ++ q) = some d.status :=
            status?_eq_some_iff.2 ⟨d, hBelow, rfl⟩
          have hChildSupported :=
            hSupported u (List.mem_of_getElem? hChild)
          exact .inl (hChildSupported.below (p := [])
            (congrArg some hStarted) hStatus)
        · exact .inr fun hReached =>
            hNot ⟨trivial, hReached.1⟩
      · intro r hRun
        cases (hRuns r).2 hRun

/-
  A launch put together from what became of the children and
  of the component itself.
-/
theorem LaunchAll.launch
    {c c' : Component κ}
    {ts ts' : List (Tree κ)}
    {runs own : List (StartRun κ)}
    {failure : Option LifecycleError}
    (hAll : LaunchAll (σ := σ) True c.name c.policy 0 ts ts'
      runs failure)
    (hSupported : ∀ u ∈ ts, u.Supported)
    (hOwn : (own.map StartRun.place).Sublist [([], c)])
    (hSelf : Fate True ((node c' ts').ChildrenStarted [])
      (fun r => ⟨[], c, r⟩ ∈ own) c c')
    {log : List (HookRun κ)}
    {o : Outcome κ (σ × List (HookRun κ))}
    (hTree : o.tree = node c' ts')
    (hJournal :
      o.state.2 = log ++ (runs ++ own).map StartRun.entry)
    (hComplaint : o.complaint? =
      (runs ++ own).findSome? (StartRun.complaint (node c ts)))
    (hStarted : ∀ status, o.result = .ok status →
      status = .started)
    (hHonest : o.Honest) :
    Launch (node c ts) log o (runs ++ own) where
  toured := by
    rw [List.map_append]
    unfold tour
    exact hAll.toured.append hOwn
  journal := hJournal
  fate := by
    intro p d hComponent
    rw [hTree]
    cases p with
    | nil =>
        cases hComponent
        refine ⟨c', rfl, hSelf.congr ?_ .rfl ?_⟩
        · exact iff_of_true trivial .root
        · intro r
          refine ⟨List.mem_append_right _, fun hMem => ?_⟩
          refine (List.mem_append.1 hMem).resolve_left ?_
          intro hRun
          have hPlace :=
            hAll.toured.subset (List.mem_map_of_mem hRun)
          rcases mem_tourAll_iff.1 hPlace with
            ⟨i, p, t, hp, -, -⟩
          cases hp
    | cons i q =>
        refine hAll.fate hSupported ?_ hComponent
        intro r hMem
        have hPlace :=
          hOwn.subset (List.mem_map_of_mem hMem)
        exact congrArg (·.1) (List.mem_singleton.1 hPlace)
  complaint := hComplaint
  started := hStarted
  honest := hHonest

/- A failure among the children fails the component. -/
theorem LaunchAll.launch_failed
    {c : Component κ}
    {ts ts' : List (Tree κ)}
    {runs : List (StartRun κ)}
    {e : LifecycleError}
    (hAll : LaunchAll (σ := σ) True c.name c.policy 0 ts ts'
      runs (some e))
    (hSupported : ∀ u ∈ ts, u.Supported)
    (hStopped : c.status = .stopped)
    {log : List (HookRun κ)}
    {s : σ × List (HookRun κ)}
    (hLog : s.2 = log ++ runs.map StartRun.entry) :
    ∃ runs, Launch (node c ts) log
      (failed (c.record .starting "start requested") ts' e s)
      runs := by
  have hText := hAll.complaint c ts rfl fun i => by
    rw [Nat.zero_add]
  have hOwn :
      (([] : List (StartRun κ)).map StartRun.place).Sublist
        [([], c)] :=
    List.nil_sublist _
  refine ⟨runs ++ [], hAll.launch hSupported hOwn ?_ rfl ?_
    ?_ ?_ (honest_failed _ _ e _)⟩
  · refine .blocked hStopped trivial ?_ ?_ rfl
    · rw [childrenStarted_nil_iff, ← hAll.started trivial]
      simp
    · exact fun r => List.not_mem_nil
  · rw [List.append_nil]
    exact hLog
  · rw [List.append_nil, ← hText]
    rfl
  · intro status hResult
    cases hResult

theorem journaled_log
    {hooks : Hooks κ σ}
    {c : Component κ}
    {hook : Hook}
    {s s' : σ × List (HookRun κ)}
    {result : Except LifecycleError Unit}
    (hRun : hooks.journaled c hook s = (result, s')) :
    s'.2 = s.2 ++ [⟨c.label, hook, result⟩] := by
  unfold Hooks.journaled at hRun
  cases hRun
  rfl

/- If all children have started, the hook decides. -/
theorem LaunchAll.launch_runHook
    {c : Component κ}
    {ts ts' : List (Tree κ)}
    {runs : List (StartRun κ)}
    (hAll : LaunchAll (σ := σ) True c.name c.policy 0 ts ts'
      runs none)
    (hSupported : ∀ u ∈ ts, u.Supported)
    (hStopped : c.status = .stopped)
    (hooks : Hooks κ σ)
    {log : List (HookRun κ)}
    {s : σ × List (HookRun κ)}
    (hLog : s.2 = log ++ runs.map StartRun.entry) :
    ∃ runs, Launch (node c ts) log
      (runHook hooks.journaled .start
        (c.record .starting "start requested") ts' .started
        "started" s)
      runs := by
  have hText := hAll.complaint c ts rfl fun i => by
    rw [Nat.zero_add]
  have hChildren := (hAll.started trivial).1 rfl
  have hOwn : ∀ result : Except LifecycleError Unit,
      ([⟨[], c, result⟩].map StartRun.place).Sublist
        [([], c)] :=
    fun _ => List.Sublist.refl [([], c)]
  have hRan : ∀ result r : Except LifecycleError Unit,
      (⟨[], c, r⟩ : StartRun κ) ∈ [⟨[], c, result⟩] ↔
        r = result := by
    intro result r
    rw [List.mem_singleton, StartRun.mk.injEq]
    simp
  rcases runHook_cases hooks.journaled .start
      (c.record .starting "start requested") ts' .started
      "started" s with
    ⟨s', hRun, hOutcome⟩ | ⟨e, s', hRun, hOutcome⟩
  · have hLast := journaled_log hRun
    rw [hOutcome]
    refine ⟨_, hAll.launch hSupported (hOwn (.ok ())) ?_ rfl
      ?_ ?_ ?_ (honest_of_ok rfl)⟩
    · exact .started hStopped trivial
        (childrenStarted_nil_iff.2 hChildren) (hRan _) rfl
    · rw [List.map_append, ← List.append_assoc, ← hLog]
      exact hLast
    · rw [List.findSome?_append, ← hText]
      rfl
    · intro status hResult
      exact (Except.ok.inj hResult).symm
  · have hLast := journaled_log hRun
    rw [hOutcome]
    refine ⟨_, hAll.launch hSupported (hOwn (.error e)) ?_ rfl
      ?_ ?_ ?_ (honest_failed _ _ e _)⟩
    · exact .failed hStopped trivial
        (childrenStarted_nil_iff.2 hChildren) (hRan _) rfl
    · rw [List.map_append, ← List.append_assoc, ← hLog]
      exact hLast
    · rw [List.findSome?_append, ← hText]
      rfl
    · intro status hResult
      cases hResult

end Loop

/-
  In a tree at rest whose root has not started, a start is a
  launch.
-/
theorem launch_start
    (hooks : Hooks κ σ)
    {t : Tree κ}
    (hWarm : t.Warm)
    (hStatus : t.status ≠ .started)
    (s : σ × List (HookRun κ)) :
    ∃ runs,
      Launch t s.2 (start hooks.journaled t s) runs := by
  induction t generalizing s with
  | node c ts ih =>
      have hStopped : c.status = .stopped := hWarm.root hStatus
      have hLoop :=
        startAll_cases hooks.journaled c.name c.policy ts s
      rcases hLoop.launchAll
          (fun t ht h s => ih t ht (hWarm.child ht) h s)
          trivial 0 with ⟨runs, hAll, hLog⟩
      have hSupported : ∀ u ∈ ts, u.Supported :=
        fun u hu => (hWarm.child hu).supported
      have hWay := start_cases hooks.journaled c ts s
      generalize start hooks.journaled (node c ts) s = o
        at hWay ⊢
      cases hWay with
      | refused hNot => exact absurd hStopped hNot
      | resumed hPaused =>
          rw [hStopped] at hPaused
          cases hPaused
      | blocked _ hFailure =>
          rw [hFailure] at hAll
          exact hAll.launch_failed hSupported hStopped hLog
      | ready _ hFailure =>
          rw [hFailure] at hAll
          exact hAll.launch_runHook hSupported hStopped hooks
            hLog

end Tree

end DeviceHub
