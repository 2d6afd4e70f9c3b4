import DeviceHub.Proofs.Lifecycle.Launching
import Mathlib.Data.List.Perm.Subperm

/-
  What a start and the resets after it make of a tree.

  Nothing that has started is lost: a start leaves it alone,
  and resets touch errors only.  What has started in the end
  had before, or its hook has succeeded, which tells how many
  hooks have succeeded from what has started.

  Key definitions include:
    * `Tree.clearedBy`
    * `Tree.marks`, `Tree.labels`
    * `Tree.SameLabels`
    * `Tree.Progress`

  Main statements:
    * `Tree.component?_run_resets`
    * `Tree.Launch.progress`
    * `Tree.Progress.after_resets`
    * `Tree.Progress.perm_marks`
-/

namespace DeviceHub

variable {κ σ : Type}

namespace Tree

------------------------------------------------------------
-- Resets
------------------------------------------------------------

@[simp]
theorem status_clear
    (c : Component κ) :
    c.clear.status = .stopped :=
  rfl

/- What resets at some places do to a component. -/
def clearedBy
    (resets : List Address)
    (q : Address)
    (c : Component κ) : Component κ :=
  if q ∈ resets ∧ c.status = .error then
    c.clear
  else
    c

theorem label_clearedBy
    (resets : List Address)
    (q : Address)
    (c : Component κ) :
    (clearedBy resets q c).label = c.label := by
  unfold clearedBy
  split
  · rfl
  · rfl

theorem clearedBy_cons
    (p : Address)
    (resets : List Address)
    (q : Address)
    (c : Component κ) :
    clearedBy resets q (clearedBy [p] q c) =
      clearedBy (p :: resets) q c := by
  unfold clearedBy
  by_cases hStatus : c.status = .error
  · by_cases hPlace : q = p
    · simp [hStatus, hPlace]
    · simp [hStatus, hPlace]
  · simp [hStatus]

theorem map_clearedBy_eq_self
    {x : Option (Component κ)}
    {resets : List Address}
    {q : Address}
    (hAside :
      ∀ c, x = some c → ¬ (q ∈ resets ∧ c.status = .error)) :
    x.map (clearedBy resets q) = x := by
  cases x with
  | none => rfl
  | some c =>
      unfold clearedBy
      rw [Option.map_some, if_neg (hAside c rfl)]

/- A reset does what it should at its place and only there. -/
theorem component?_step_reset
    (hooks : Hooks κ σ)
    (t : Tree κ)
    (s : σ)
    (p q : Address) :
    (t.step s ⟨p, .reset, hooks⟩).1.component? q =
      (t.component? q).map (clearedBy [p] q) := by
  unfold step
  cases hPart : t.part? p with
  | none =>
      have hNone : t.callAt? hooks .reset p s = none := by
        unfold callAt?
        rw [hPart]
        rfl
      rw [hNone, map_clearedBy_eq_self]
      rintro c hComponent ⟨hMem, -⟩
      rw [List.mem_singleton.1 hMem] at hComponent
      unfold component? at hComponent
      rw [hPart] at hComponent
      cases hComponent
  | some u =>
      rw [callAt?_eq_some hPart]
      cases u with
      | node d us =>
          have hHere : t.component? p = some d := by
            unfold component?
            rw [hPart]
            rfl
          have hWay := reset_cases d us s
          unfold call
          generalize reset (node d us) s = o at hWay ⊢
          cases hWay with
          | refused hStatus =>
              unfold rejected
              rw [replace_self hPart, map_clearedBy_eq_self]
              rintro c hComponent ⟨hMem, hError⟩
              rw [List.mem_singleton.1 hMem, hHere]
                at hComponent
              cases hComponent
              exact hStatus hError
          | cleared hStatus =>
              by_cases hPlace : q = p
              · rw [hPlace, hHere]
                unfold component?
                rw [part?_replace hPart]
                simp [clearedBy, hStatus, self]
              · rw [component?_replace_node_of_ne hPart _
                  hPlace, map_clearedBy_eq_self]
                rintro c - ⟨hMem, -⟩
                exact hPlace (List.mem_singleton.1 hMem)

/- Of the components to be reset, those in error are cleared. -/
theorem component?_run_resets
    (hooks : Hooks κ σ)
    (t : Tree κ)
    (s : σ)
    (resets : List Address)
    (q : Address) :
    (t.run s (resets.map fun p =>
      ⟨p, .reset, hooks⟩)).1.component? q =
      (t.component? q).map (clearedBy resets q) := by
  induction resets generalizing t s with
  | nil =>
      rw [map_clearedBy_eq_self]
      · rfl
      · rintro c - ⟨hMem, -⟩
        cases hMem
  | cons p rest ih =>
      rw [List.map_cons]
      unfold run
      rw [ih, component?_step_reset, Option.map_map]
      exact congrArg (Option.map · _)
        (funext (clearedBy_cons p rest q))

theorem status?_run_resets
    (hooks : Hooks κ σ)
    (t : Tree κ)
    (s : σ)
    (resets : List Address)
    (q : Address) :
    (t.run s (resets.map fun p =>
      ⟨p, .reset, hooks⟩)).1.status? q =
      (t.status? q).map fun status =>
        if q ∈ resets ∧ status = .error then
          .stopped
        else
          status := by
  rw [status?_eq, status?_eq, component?_run_resets,
    Option.map_map, Option.map_map]
  cases t.component? q with
  | none => rfl
  | some c =>
      simp only [Option.map_some, Function.comp_apply,
        clearedBy]
      split
      · rw [status_clear]
      · rfl

/- Resets start nothing. -/
theorem status?_run_resets_eq_started_iff
    (hooks : Hooks κ σ)
    (t : Tree κ)
    (s : σ)
    (resets : List Address)
    (q : Address) :
    (t.run s (resets.map fun p =>
      ⟨p, .reset, hooks⟩)).1.status? q = some .started ↔
      t.status? q = some .started := by
  rw [status?_run_resets, Option.map_eq_some_iff]
  constructor
  · rintro ⟨status, hStatus, hAfter⟩
    split at hAfter
    · cases hAfter
    · rwa [hAfter] at hStatus
  · intro hStatus
    exact ⟨.started, hStatus, if_neg (by simp)⟩

------------------------------------------------------------
-- Places and Labels
------------------------------------------------------------

/- The components in some statuses: places and labels. -/
def marks
    (P : Status → Bool)
    (t : Tree κ) : List (Address × κ) :=
  (t.tour.filter fun x => P x.2.status).map fun x =>
    (x.1, x.2.label)

/- The labels of the components in some statuses. -/
def labels
    (P : Status → Bool)
    (t : Tree κ) : List κ :=
  (t.marks P).map (·.2)

theorem mem_marks_iff
    {P : Status → Bool}
    {t : Tree κ}
    {p : Address}
    {k : κ} :
    (p, k) ∈ t.marks P ↔
      ∃ c, t.component? p = some c ∧ P c.status = true ∧
        c.label = k := by
  unfold marks
  rw [List.mem_map]
  constructor
  · rintro ⟨⟨q, c⟩, hMem, hSame⟩
    rcases List.mem_filter.1 hMem with ⟨hTour, hStatus⟩
    cases hSame
    exact ⟨c, mem_tour_iff.1 hTour, hStatus, rfl⟩
  · rintro ⟨c, hComponent, hStatus, rfl⟩
    exact ⟨(p, c),
      List.mem_filter.2 ⟨mem_tour_iff.2 hComponent, hStatus⟩,
      rfl⟩

theorem nodup_marks
    (P : Status → Bool)
    (t : Tree κ) :
    (t.marks P).Nodup := by
  apply List.Nodup.of_map Prod.fst
  unfold marks
  rw [List.map_map]
  exact (List.filter_sublist.map _).nodup (nodup_tour t)

theorem marks_eq_nil
    {P : Status → Bool}
    {t : Tree κ}
    (hNone : t.All fun c => P c.status = false) :
    t.marks P = [] := by
  rw [List.eq_nil_iff_forall_not_mem]
  rintro ⟨p, k⟩ hMem
  rcases mem_marks_iff.1 hMem with ⟨c, hc, hStatus, -⟩
  rw [hNone p c hc] at hStatus
  cases hStatus

theorem marks_eq_marks_true
    {P : Status → Bool}
    {t : Tree κ}
    (hAll : t.All fun c => P c.status = true) :
    t.marks P = t.marks fun _ => true := by
  unfold marks
  refine congrArg _ (List.filter_congr ?_)
  rintro ⟨p, c⟩ hMem
  exact hAll p c (mem_tour_iff.1 hMem)

/- Who stands where does not change. -/
def SameLabels
    (t t' : Tree κ) : Prop :=
  ∀ p, (t'.component? p).map (·.label) =
    (t.component? p).map (·.label)

theorem SameLabels.exists_before
    {t t' : Tree κ}
    (hSame : SameLabels t t')
    {p : Address}
    {c' : Component κ}
    (hAfter : t'.component? p = some c') :
    ∃ c, t.component? p = some c ∧ c.label = c'.label := by
  have hHere := hSame p
  rw [hAfter] at hHere
  exact Option.map_eq_some_iff.1 hHere.symm

theorem SameLabels.label_eq
    {t t' : Tree κ}
    (hSame : SameLabels t t')
    {p : Address}
    {c c' : Component κ}
    (hBefore : t.component? p = some c)
    (hAfter : t'.component? p = some c') :
    c'.label = c.label := by
  have hHere := hSame p
  rw [hBefore, hAfter] at hHere
  exact Option.some.inj hHere

theorem SameLabels.of_turns
    {t t' : Tree κ}
    (hEach : Each Component.Turn t t') :
    SameLabels t t' := by
  intro p
  cases hBefore : t.component? p with
  | some c =>
      rcases hEach.exists_after hBefore with ⟨c', hc, hTurn⟩
      rw [hc, Option.map_some, Option.map_some, hTurn.label_eq]
  | none => rw [(hEach.eq_none_iff p).2 hBefore]

theorem SameLabels.perm_marks
    {t t' : Tree κ}
    (hSame : SameLabels t t') :
    (t'.marks fun _ => true).Perm (t.marks fun _ => true) := by
  rw [List.perm_ext_iff_of_nodup (nodup_marks _ _)
    (nodup_marks _ _)]
  rintro ⟨p, k⟩
  have hHere :
      (∃ c, t'.component? p = some c ∧ c.label = k) ↔
        ∃ c, t.component? p = some c ∧ c.label = k := by
    rw [← Option.map_eq_some_iff, hSame p,
      Option.map_eq_some_iff]
  simpa only [mem_marks_iff, true_and] using hHere

------------------------------------------------------------
-- Progress
------------------------------------------------------------

/-
  What an attempt makes of a tree at rest: what has started
  stays, and hooks are run of other components only.
-/
structure Progress
    (t t' : Tree κ)
    (runs : List (StartRun κ)) : Prop where
  toured : (runs.map StartRun.place).Sublist t.tour
  idle : ∀ r ∈ runs, r.component.status ≠ .started
  kept : ∀ p c, t.component? p = some c →
    c.status = .started → t'.component? p = some c
  started_iff : ∀ p, t'.status? p = some .started ↔
    t.status? p = some .started ∨
      ∃ c, ⟨p, c, .ok ()⟩ ∈ runs
  supported : t'.Supported
  settled : t'.All fun c =>
    c.status = .stopped ∨ c.status = .started ∨
      c.status = .error
  same : SameLabels t t'

theorem Progress.refl
    {t : Tree κ}
    (hWarm : t.Warm) :
    Progress t t [] where
  toured := List.nil_sublist _
  idle := by
    intro r hMem
    cases hMem
  kept := fun _ _ hComponent _ => hComponent
  started_iff := by
    intro p
    simp
  supported := hWarm.supported
  settled := fun p c hc =>
    (hWarm.idle p c hc).imp_right .inl
  same := fun _ => rfl

section Launches

variable {t : Tree κ} {log : List (HookRun κ)}
variable {o : Outcome κ (σ × List (HookRun κ))}
variable {runs : List (StartRun κ)}
variable (hLaunch : Launch t log o runs)

include hLaunch

/- What has started is left alone. -/
theorem Launch.component?_of_started
    {p : Address}
    {c : Component κ}
    (hComponent : t.component? p = some c)
    (hStarted : c.status = .started) :
    o.tree.component? p = some c := by
  rcases hLaunch.fate p c hComponent with ⟨c', hAfter, hFate⟩
  rw [hAfter, hFate.eq_of_kept (.inl hStarted)]

theorem Launch.exists_fate_before
    (hSame : SameLabels t o.tree)
    {p : Address}
    {c' : Component κ}
    (hAfter : o.tree.component? p = some c') :
    ∃ c, t.component? p = some c ∧
      Fate (Reached t o.tree p) (o.tree.ChildrenStarted p)
        (fun r => ⟨p, c, r⟩ ∈ runs) c c' := by
  rcases hSame.exists_before hAfter with ⟨c, hc, -⟩
  rcases hLaunch.fate p c hc with ⟨d, hd, hFate⟩
  rw [hAfter, Option.some.injEq] at hd
  subst hd
  exact ⟨c, hc, hFate⟩

/- What has started had before, or its hook succeeded. -/
theorem Launch.status?_eq_started_iff
    (hSame : SameLabels t o.tree)
    (p : Address) :
    o.tree.status? p = some .started ↔
      t.status? p = some .started ∨
        ∃ c, ⟨p, c, .ok ()⟩ ∈ runs := by
  constructor
  · intro hAfter
    rcases status?_eq_some_iff.1 hAfter with ⟨c', hc', hStatus⟩
    rcases hLaunch.exists_fate_before hSame hc' with
      ⟨c, hc, hFate⟩
    rcases hFate.started_iff.1 hStatus with hBefore | hRun
    · exact .inl (status?_eq_some_iff.2 ⟨c, hc, hBefore⟩)
    · exact .inr ⟨c, hRun⟩
  · rintro (hBefore | ⟨c, hRun⟩)
    · rcases status?_eq_some_iff.1 hBefore with ⟨c, hc, hStatus⟩
      exact status?_eq_some_iff.2
        ⟨c, hLaunch.component?_of_started hc hStatus, hStatus⟩
    · have hPlace : (p, c) ∈ runs.map StartRun.place :=
        List.mem_map_of_mem hRun
      have hc := (hLaunch.mem_places_iff.1 hPlace).1
      rcases hLaunch.fate p c hc with ⟨c', hc', hFate⟩
      exact status?_eq_some_iff.2
        ⟨c', hc', hFate.started_iff.2 (.inr hRun)⟩

/- What has started after a launch, its children have too. -/
theorem Launch.supported
    (hSupported : t.Supported)
    (hSame : SameLabels t o.tree) :
    o.tree.Supported := by
  intro p hAfter i status hStatus
  rcases (hLaunch.status?_eq_started_iff hSame p).1 hAfter with
    hBefore | ⟨c, hRun⟩
  · rcases status?_eq_some_iff.1 hStatus with ⟨c', hc', rfl⟩
    rcases hLaunch.exists_fate_before hSame hc' with
      ⟨c, hc, hFate⟩
    have hChild : c.status = .started :=
      hSupported p hBefore i c.status
        (status?_eq_some_iff.2 ⟨c, hc, rfl⟩)
    exact hFate.started_iff.2 (.inl hChild)
  · have hPlace : (p, c) ∈ runs.map StartRun.place :=
      List.mem_map_of_mem hRun
    exact (hLaunch.mem_places_iff.1 hPlace).2.2.2 i status
      hStatus

theorem Launch.progress
    (hWarm : t.Warm)
    (hSame : SameLabels t o.tree) :
    Progress t o.tree runs where
  toured := hLaunch.toured
  idle := fun r hRun =>
    (hLaunch.mem_places_iff.1 (List.mem_map_of_mem hRun)).2.1
  kept := fun p c hc hStarted =>
    hLaunch.component?_of_started hc hStarted
  started_iff := hLaunch.status?_eq_started_iff hSame
  supported := hLaunch.supported hWarm.supported hSame
  settled := by
    intro p c' hc'
    rcases hLaunch.exists_fate_before hSame hc' with
      ⟨c, hc, hFate⟩
    exact hFate.settled (hWarm.idle p c hc)
  same := hSame

end Launches

/- Resets take nothing back. -/
theorem Progress.after_resets
    {t t' : Tree κ}
    {runs : List (StartRun κ)}
    (hProgress : Progress t t' runs)
    (hooks : Hooks κ σ)
    (s : σ)
    (resets : List Address) :
    Progress t
      (t'.run s (resets.map fun p =>
        ⟨p, .reset, hooks⟩)).1 runs where
  toured := hProgress.toured
  idle := hProgress.idle
  kept := by
    intro p c hComponent hStarted
    have hAside : ¬ (p ∈ resets ∧ c.status = .error) := by
      rw [hStarted]
      simp
    rw [component?_run_resets,
      hProgress.kept p c hComponent hStarted, Option.map_some]
    unfold clearedBy
    rw [if_neg hAside]
  started_iff := by
    intro p
    rw [status?_run_resets_eq_started_iff]
    exact hProgress.started_iff p
  supported := by
    intro p hStarted i status hStatus
    rw [status?_run_resets_eq_started_iff] at hStarted
    rw [status?_run_resets] at hStatus
    rcases Option.map_eq_some_iff.1 hStatus with
      ⟨before, hBefore, rfl⟩
    rw [hProgress.supported p hStarted i before hBefore]
    simp
  settled := by
    intro p c hc
    rw [component?_run_resets] at hc
    rcases Option.map_eq_some_iff.1 hc with ⟨d, hd, rfl⟩
    unfold clearedBy
    split
    · exact .inl rfl
    · exact hProgress.settled p d hd
  same := by
    intro p
    rw [← hProgress.same p, component?_run_resets,
      Option.map_map]
    exact congrArg (Option.map · _)
      (funext (label_clearedBy resets p))

theorem Progress.component?_eq
    {t t' : Tree κ}
    {runs : List (StartRun κ)}
    (hProgress : Progress t t' runs)
    {r : StartRun κ}
    (hRun : r ∈ runs) :
    t.component? r.address = some r.component :=
  mem_tour_iff.1
    (hProgress.toured.subset (List.mem_map_of_mem hRun))

/- No hook is run twice in one attempt. -/
theorem Progress.nodup
    {t t' : Tree κ}
    {runs : List (StartRun κ)}
    (hProgress : Progress t t' runs) :
    (runs.map StartRun.mark).Nodup := by
  apply List.Nodup.of_map Prod.fst
  have hAddresses :=
    (hProgress.toured.map (·.1)).nodup (nodup_tour t)
  rw [List.map_map] at hAddresses ⊢
  exact hAddresses

theorem Progress.started_of_succeeded
    {t t' : Tree κ}
    {runs : List (StartRun κ)}
    (hProgress : Progress t t' runs)
    {r : StartRun κ}
    (hRun : r ∈ runs)
    (hSucceeded : r.entry.succeeded = true) :
    t'.status? r.address = some .started := by
  rcases r with ⟨p, c, result⟩
  cases result with
  | ok => exact (hProgress.started_iff p).2 (.inr ⟨c, hRun⟩)
  | error e => cases hSucceeded

/- What has started: what had before, and whose hook succeeded. -/
theorem Progress.perm_marks
    {t t' : Tree κ}
    {runs : List (StartRun κ)}
    (hProgress : Progress t t' runs) :
    (t.marks (· = .started) ++
      (runs.filter (·.entry.succeeded)).map
        StartRun.mark).Perm
      (t'.marks (· = .started)) := by
  have hNodup :
      (t.marks (· = .started) ++
        (runs.filter (·.entry.succeeded)).map
          StartRun.mark).Nodup := by
    refine List.nodup_append'.2 ⟨nodup_marks _ _,
      (List.filter_sublist.map _).nodup hProgress.nodup, ?_⟩
    rintro ⟨p, k⟩ hBefore hRan
    rcases List.mem_map.1 hRan with ⟨r, hMem, hMark⟩
    have hRun := List.mem_of_mem_filter hMem
    cases hMark
    rcases mem_marks_iff.1 hBefore with ⟨c, hc, hStarted, -⟩
    rw [hProgress.component?_eq hRun, Option.some.injEq] at hc
    subst hc
    exact hProgress.idle r hRun (of_decide_eq_true hStarted)
  -- Neither list has duplicates, so membership decides.
  rw [List.perm_ext_iff_of_nodup hNodup (nodup_marks _ _)]
  rintro ⟨p, k⟩
  rw [List.mem_append, mem_marks_iff, mem_marks_iff]
  constructor
  · rintro (⟨c, hc, hStarted, hLabel⟩ | hRan)
    · exact ⟨c, hProgress.kept p c hc
        (of_decide_eq_true hStarted), hStarted, hLabel⟩
    · rcases List.mem_map.1 hRan with ⟨r, hMem, hMark⟩
      rcases List.mem_filter.1 hMem with ⟨hRun, hSucceeded⟩
      cases hMark
      rcases status?_eq_some_iff.1
          (hProgress.started_of_succeeded hRun hSucceeded) with
        ⟨c', hc', hStarted⟩
      exact ⟨c', hc', decide_eq_true hStarted,
        hProgress.same.label_eq
          (hProgress.component?_eq hRun) hc'⟩
  · rintro ⟨c', hc', hStarted, rfl⟩
    have hStatus : t'.status? p = some .started :=
      status?_eq_some_iff.2
        ⟨c', hc', of_decide_eq_true hStarted⟩
    rcases (hProgress.started_iff p).1 hStatus with
      hBefore | ⟨c, hRun⟩
    · rcases status?_eq_some_iff.1 hBefore with ⟨c, hc, hOld⟩
      exact .inl ⟨c, hc, decide_eq_true hOld,
        (hProgress.same.label_eq hc hc').symm⟩
    · have hLabel := hProgress.same.label_eq
        (hProgress.component?_eq hRun) hc'
      refine .inr (List.mem_map.2 ⟨⟨p, c, .ok ()⟩,
        List.mem_filter.2 ⟨hRun, rfl⟩, ?_⟩)
      exact Prod.ext rfl hLabel.symm

end Tree

end DeviceHub
