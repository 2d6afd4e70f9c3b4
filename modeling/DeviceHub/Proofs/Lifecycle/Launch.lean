import DeviceHub.Proofs.Lifecycle.Answers

/-
  The start of a whole tree.

  Nothing is under way in the tree, and some of its parts may
  have started before.  Then a start asks one component after
  the other, children first, and what becomes of each can be
  told from the statuses at the end: whether its turn came,
  and whether all its children have started.

  Key definitions include:
    * `Tree.ChildrenStarted`
    * `Tree.Reached`
    * `Tree.Warm`
    * `Tree.blame`
    * `StartRun`
    * `Tree.Fate`
    * `Tree.Launch`

  Main statements:
    * `Tree.reached_cons_iff`
    * `Tree.Supported.below`
    * `Tree.Launch.exists_first_failure`
    * `Tree.Launch.mem_places_iff`
-/

namespace DeviceHub

namespace Tree

variable {κ σ : Type}

------------------------------------------------------------
-- Started Components
------------------------------------------------------------

/- The children of the component at an address have started. -/
def ChildrenStarted
    (t : Tree κ)
    (p : Address) : Prop :=
  ∀ i status, t.status? (p ++ [i]) = some status →
    status = .started

/- No component has started before its children. -/
def Supported
    (t : Tree κ) : Prop :=
  ∀ p, t.status? p = some .started → t.ChildrenStarted p

/- Where no turn is under way and no error is left. -/
structure Warm
    (t : Tree κ) : Prop where
  idle : t.All fun c =>
    c.status = .stopped ∨ c.status = .started
  supported : t.Supported

theorem warm_of_stopped
    {t : Tree κ}
    (hCold : t.All fun c => c.status = .stopped) :
    t.Warm where
  idle := fun p c hComponent => .inl (hCold p c hComponent)
  supported := by
    intro p hStarted
    rcases status?_eq_some_iff.1 hStarted with ⟨c, hc, hStatus⟩
    rw [hCold p c hc] at hStatus
    cases hStatus

theorem root_of_stopped
    {t : Tree κ}
    (hCold : t.All fun c => c.status = .stopped) :
    t.status ≠ .started := by
  cases t with
  | node c ts =>
      rw [status_node, hCold [] c rfl]
      decide

theorem status?_cons_of_getElem?
    {c : Component κ}
    {ts : List (Tree κ)}
    {i : Nat}
    {u : Tree κ}
    (hChild : ts[i]? = some u)
    (p : Address) :
    (node c ts).status? (i :: p) = u.status? p := by
  rw [status?_cons, hChild]
  rfl

theorem childrenStarted_nil_iff
    {c : Component κ}
    {ts : List (Tree κ)} :
    (node c ts).ChildrenStarted [] ↔
      ∀ u ∈ ts, u.status = .started := by
  constructor
  · intro hStarted u hMem
    rcases List.mem_iff_getElem?.1 hMem with ⟨i, hi⟩
    exact hStarted i u.status (status?_cons_of_getElem? hi [])
  · intro hStarted i status hStatus
    rw [List.nil_append, status?_cons] at hStatus
    rcases Option.bind_eq_some_iff.1 hStatus with ⟨u, hi, hu⟩
    cases hu
    exact hStarted u (List.mem_of_getElem? hi)

theorem childrenStarted_cons_iff
    {c : Component κ}
    {ts : List (Tree κ)}
    {i : Nat}
    {u : Tree κ}
    (hChild : ts[i]? = some u)
    (p : Address) :
    (node c ts).ChildrenStarted (i :: p) ↔
      u.ChildrenStarted p := by
  unfold ChildrenStarted
  simp only [List.cons_append, status?_cons_of_getElem? hChild]

/- Below a started component all have started. -/
theorem Supported.below
    {t : Tree κ}
    (hSupported : t.Supported)
    {p q : Address}
    {status : Status}
    (hStarted : t.status? p = some .started)
    (hBelow : t.status? (p ++ q) = some status) :
    status = .started := by
  induction q generalizing p with
  | nil =>
      rw [List.append_nil, hStarted] at hBelow
      exact (Option.some.inj hBelow).symm
  | cons i q ih =>
      rw [List.append_cons] at hBelow
      have hChild : t.status? (p ++ [i]) = some .started := by
        cases hStatus : t.status? (p ++ [i]) with
        | none =>
            unfold status? at hStatus hBelow
            rw [Option.map_eq_none_iff] at hStatus
            rw [part?_append, hStatus] at hBelow
            cases hBelow
        | some status =>
            rw [hSupported p hStarted i status hStatus]
      exact ih hChild hBelow

theorem Supported.child
    {c : Component κ}
    {ts : List (Tree κ)}
    (hSupported : (node c ts).Supported)
    {u : Tree κ}
    (hMem : u ∈ ts) :
    u.Supported := by
  rcases List.mem_iff_getElem?.1 hMem with ⟨i, hi⟩
  intro p hStarted
  rw [← childrenStarted_cons_iff (c := c) hi]
  apply hSupported
  rw [status?_cons_of_getElem? hi]
  exact hStarted

theorem Warm.child
    {c : Component κ}
    {ts : List (Tree κ)}
    (hWarm : (node c ts).Warm)
    {u : Tree κ}
    (hMem : u ∈ ts) :
    u.Warm where
  idle := (all_node_iff.1 hWarm.idle).2 u hMem
  supported := hWarm.supported.child hMem

theorem Warm.root
    {t : Tree κ}
    (hWarm : t.Warm)
    (hStatus : t.status ≠ .started) :
    t.status = .stopped := by
  cases t with
  | node c ts =>
      rcases hWarm.idle [] c rfl with hStopped | hStarted
      · exact hStopped
      · exact absurd hStarted hStatus

------------------------------------------------------------
-- Whose Turn Comes
------------------------------------------------------------

/-
  The places that a start comes to, told from the statuses
  after it: a child's turn comes if its parent's came, and
  the parent either goes on after failures or all children
  before this one have started.
-/
inductive Reached
    (t t' : Tree κ) : Address → Prop where
  | root : Reached t t' []
  | child
      {p : Address}
      {c : Component κ}
      {i : Nat}
      (hParent : Reached t t' p)
      (hComponent : t.component? p = some c)
      (hTurn : c.policy = .continue ∨
        ∀ j < i, ∀ status,
          t'.status? (p ++ [j]) = some status →
            status = .started) :
      Reached t t' (p ++ [i])

/- The same for one of several children by itself. -/
def Comes
    (policy : ChildPolicy)
    (ts : List (Tree κ))
    (i : Nat) : Prop :=
  policy = .continue ∨
    ∀ j < i, ∀ u, ts[j]? = some u → u.status = .started

theorem comes_iff
    {c c' : Component κ}
    {ts : List (Tree κ)}
    {i : Nat} :
    Comes c.policy ts i ↔
      (c.policy = .continue ∨ ∀ j < i, ∀ status,
        (node c' ts).status? ([] ++ [j]) = some status →
          status = .started) := by
  unfold Comes
  refine or_congr_right (forall₂_congr fun j _ => ?_)
  rw [List.nil_append, status?_cons]
  constructor
  · intro hStarted status hStatus
    rcases Option.bind_eq_some_iff.1 hStatus with ⟨u, hj, hu⟩
    cases hu
    exact hStarted u hj
  · intro hStarted u hj
    rw [hj] at hStarted
    exact hStarted u.status rfl

theorem comes_zero
    (policy : ChildPolicy)
    (ts : List (Tree κ)) :
    Comes policy ts 0 :=
  .inr fun _ hLess => absurd hLess (Nat.not_lt_zero _)

theorem comes_cons_succ_iff
    {policy : ChildPolicy}
    {t : Tree κ}
    {ts : List (Tree κ)}
    {i : Nat} :
    Comes policy (t :: ts) (i + 1) ↔
      (policy = .continue ∨ t.status = .started) ∧
        Comes policy ts i := by
  unfold Comes
  rw [Nat.forall_lt_succ_left, ← or_and_left]
  simp

/- A place below a child is reached when the child is. -/
theorem reached_cons_iff
    {c c' : Component κ}
    {ts ts' : List (Tree κ)}
    {i : Nat}
    {u u' : Tree κ}
    (hBefore : ts[i]? = some u)
    (hAfter : ts'[i]? = some u')
    {q : Address} :
    Reached (node c ts) (node c' ts') (i :: q) ↔
      Comes c.policy ts' i ∧ Reached u u' q := by
  constructor
  · intro hReached
    -- Places are reached from the root down, so the induction
    -- takes steps at the far end of the address.
    generalize hPlace : i :: q = p at hReached
    induction hReached generalizing q with
    | root => cases hPlace
    | @child p d k _ hComponent hTurn ih =>
        cases p with
        | nil =>
            cases hPlace
            cases hComponent
            exact ⟨comes_iff.2 hTurn, .root⟩
        | cons j p =>
            rw [List.cons_append, List.cons.injEq] at hPlace
            rcases hPlace with ⟨rfl, rfl⟩
            rcases ih rfl with ⟨hComes, hParent⟩
            rw [component?_cons, hBefore] at hComponent
            simp only [List.cons_append,
              status?_cons_of_getElem? hAfter] at hTurn
            exact ⟨hComes, .child hParent hComponent hTurn⟩
  · rintro ⟨hComes, hReached⟩
    induction hReached with
    | root =>
        exact .child (p := []) .root rfl (comes_iff.1 hComes)
    | @child p d k _ hComponent hTurn ih =>
        rw [← List.cons_append]
        refine .child (c := d) ih ?_ ?_
        · exact component?_cons_eq_some_iff.2
            ⟨u, hBefore, hComponent⟩
        · simp only [List.cons_append,
            status?_cons_of_getElem? hAfter]
          exact hTurn

------------------------------------------------------------
-- Runs of Start Hooks
------------------------------------------------------------

/- A failure as the parent of the failed child tells it. -/
def childText
    (parent child text : String) : String :=
  s!"Child '{child}' of '{parent}' failed: {text}"

/-
  What the root says of a failure at an address, every parent
  on the way up adding its part.
-/
def blame
    (t : Tree κ)
    (text : String) : Address → String
  | [] => text
  | i :: p =>
      match t.children[i]? with
      | some u =>
          childText t.self.name u.self.name (u.blame text p)
      | none => text

end Tree

/- A run of the start hook of a component in a tree. -/
structure StartRun (κ : Type) where
  address : Address
  component : Component κ
  result : Except LifecycleError Unit

namespace StartRun

variable {κ : Type}

/- The place in a tour. -/
def place
    (r : StartRun κ) : Address × Component κ :=
  (r.address, r.component)

/- The place and whose hook it is. -/
def mark
    (r : StartRun κ) : Address × κ :=
  (r.address, r.component.label)

/- The entry in a journal. -/
def entry
    (r : StartRun κ) : HookRun κ :=
  ⟨r.component.label, .start, r.result⟩

/- The same run in the tree of a parent. -/
def below
    (i : Nat)
    (r : StartRun κ) : StartRun κ :=
  ⟨i :: r.address, r.component, r.result⟩

/- What the root of a tree says if a hook has failed. -/
def complaint
    (t : Tree κ)
    (r : StartRun κ) : Option String :=
  match r.result with
  | .ok _ => none
  | .error e => some (t.blame e.message r.address)

theorem complaint_eq_none_iff
    {t : Tree κ}
    {r : StartRun κ} :
    r.complaint t = none ↔ r.result = .ok () := by
  unfold complaint
  cases r.result with
  | ok => exact iff_of_true rfl rfl
  | error e => simp

/- A parent tells what its child says. -/
theorem complaint_below
    {c : Component κ}
    {ts : List (Tree κ)}
    {i : Nat}
    {u : Tree κ}
    (hChild : ts[i]? = some u)
    (r : StartRun κ) :
    (r.below i).complaint (.node c ts) =
      (r.complaint u).map
        (Tree.childText c.name u.self.name) := by
  unfold complaint below
  cases r.result with
  | ok => rfl
  | error e =>
      simp only [Tree.blame, Tree.children, hChild, Tree.self,
        Option.map_some]

theorem map_entry_below
    (i : Nat)
    (runs : List (StartRun κ)) :
    (runs.map (below i)).map entry = runs.map entry := by
  rw [List.map_map]
  rfl

theorem mem_map_below_iff
    {i j : Nat}
    {r : StartRun κ}
    {runs : List (StartRun κ)} :
    r.below i ∈ runs.map (below j) ↔ i = j ∧ r ∈ runs := by
  rcases r with ⟨p, c, result⟩
  rw [List.mem_map]
  constructor
  · rintro ⟨⟨q, d, other⟩, hMem, hSame⟩
    cases hSame
    exact ⟨rfl, hMem⟩
  · rintro ⟨rfl, hMem⟩
    exact ⟨_, hMem, rfl⟩

end StartRun

namespace Tree

variable {κ σ : Type}

------------------------------------------------------------
-- What Becomes of a Tree
------------------------------------------------------------

/-
  What becomes of a component in a start, where its children
  are `ready` if all of them have started, and its hook `ran`
  with what result.
-/
inductive Fate
    (reached ready : Prop)
    (ran : Except LifecycleError Unit → Prop)
    (c : Component κ) : Component κ → Prop where
  | kept
      (hKept : c.status = .started ∨ ¬ reached)
      (hRan : ∀ r, ¬ ran r) :
      Fate reached ready ran c c
  | blocked
      {c' : Component κ}
      (hBefore : c.status = .stopped)
      (hReached : reached)
      (hReady : ¬ ready)
      (hRan : ∀ r, ¬ ran r)
      (hAfter : c'.status = .error) :
      Fate reached ready ran c c'
  | started
      {c' : Component κ}
      (hBefore : c.status = .stopped)
      (hReached : reached)
      (hReady : ready)
      (hRan : ∀ r, ran r ↔ r = .ok ())
      (hAfter : c'.status = .started) :
      Fate reached ready ran c c'
  | failed
      {c' : Component κ}
      {e : LifecycleError}
      (hBefore : c.status = .stopped)
      (hReached : reached)
      (hReady : ready)
      (hRan : ∀ r, ran r ↔ r = .error e)
      (hAfter : c'.status = .error) :
      Fate reached ready ran c c'

theorem Fate.congr
    {reached reached' ready ready' : Prop}
    {ran ran' : Except LifecycleError Unit → Prop}
    {c c' : Component κ}
    (hFate : Fate reached ready ran c c')
    (hReached : reached ↔ reached')
    (hReady : ready ↔ ready')
    (hRan : ∀ r, ran r ↔ ran' r) :
    Fate reached' ready' ran' c c' := by
  have hSame : ran = ran' := funext fun r => propext (hRan r)
  rwa [← propext hReached, ← propext hReady, ← hSame]

section Fates

variable {reached ready : Prop}
variable {ran : Except LifecycleError Unit → Prop}
variable {c c' : Component κ}
variable (hFate : Fate reached ready ran c c')

include hFate

/- Whose hook runs. -/
theorem Fate.exists_ran_iff :
    (∃ r, ran r) ↔ c.status ≠ .started ∧ reached ∧ ready := by
  cases hFate with
  | kept hKept hRan =>
      constructor
      · rintro ⟨r, hr⟩
        exact absurd hr (hRan r)
      · rintro ⟨hStopped, hReached, -⟩
        rcases hKept with hStarted | hNot
        · exact absurd hStarted hStopped
        · exact absurd hReached hNot
  | blocked _ _ hReady hRan =>
      constructor
      · rintro ⟨r, hr⟩
        exact absurd hr (hRan r)
      · rintro ⟨-, -, hYes⟩
        exact absurd hYes hReady
  | started hBefore hReached hReady hRan
  | failed hBefore hReached hReady hRan =>
      refine iff_of_true ⟨_, (hRan _).2 rfl⟩
        ⟨?_, hReached, hReady⟩
      rw [hBefore]
      decide

/- Who has started afterwards. -/
theorem Fate.started_iff :
    c'.status = .started ↔
      c.status = .started ∨ ran (.ok ()) := by
  cases hFate with
  | kept _ hRan => exact (or_iff_left (hRan _)).symm
  | blocked hBefore _ _ hRan hAfter =>
      rw [hBefore, hAfter]
      simp [hRan]
  | started _ _ _ hRan hAfter =>
      exact iff_of_true hAfter (.inr ((hRan _).2 rfl))
  | failed hBefore _ _ hRan hAfter =>
      rw [hBefore, hAfter, hRan]
      simp

/- A component that a start comes to is left in no doubt. -/
theorem Fate.started_or_error
    (hReached : reached) :
    c'.status = .started ∨ c'.status = .error := by
  cases hFate with
  | kept hKept =>
      rcases hKept with hStarted | hNot
      · exact .inl hStarted
      · exact absurd hReached hNot
  | started _ _ _ _ hAfter => exact .inl hAfter
  | blocked _ _ _ _ hAfter => exact .inr hAfter
  | failed _ _ _ _ hAfter => exact .inr hAfter

/- Nothing is left under way. -/
theorem Fate.settled
    (hIdle : c.status = .stopped ∨ c.status = .started) :
    c'.status = .stopped ∨ c'.status = .started ∨
      c'.status = .error := by
  cases hFate with
  | kept => exact hIdle.imp_right .inl
  | started _ _ _ _ hAfter => exact .inr (.inl hAfter)
  | blocked _ _ _ _ hAfter => exact .inr (.inr hAfter)
  | failed _ _ _ _ hAfter => exact .inr (.inr hAfter)

/- One that has started, or is not come to, stays as it is. -/
theorem Fate.eq_of_kept
    (hKept : c.status = .started ∨ ¬ reached) :
    c' = c := by
  cases hFate with
  | kept => rfl
  | blocked hBefore hReached
  | started hBefore hReached
  | failed hBefore hReached =>
      rcases hKept with hStarted | hNot
      · rw [hBefore] at hStarted
        cases hStarted
      · exact absurd hReached hNot

end Fates

/- What an answer complains of, if it does. -/
def Outcome.complaint?
    (o : Outcome κ σ) : Option String :=
  match o.result with
  | .ok _ => none
  | .error e => some e.message

/-
  A start as a whole: which hooks ran, in what order and with
  what results, and what became of every component.
-/
structure Launch
    (t : Tree κ)
    (log : List (HookRun κ))
    (o : Outcome κ (σ × List (HookRun κ)))
    (runs : List (StartRun κ)) : Prop where
  toured : (runs.map StartRun.place).Sublist t.tour
  journal : o.state.2 = log ++ runs.map StartRun.entry
  fate : ∀ p c, t.component? p = some c →
    ∃ c', o.tree.component? p = some c' ∧
      Fate (Reached t o.tree p) (o.tree.ChildrenStarted p)
        (fun r => ⟨p, c, r⟩ ∈ runs) c c'
  complaint :
    o.complaint? = runs.findSome? (StartRun.complaint t)
  started : ∀ status, o.result = .ok status →
    status = .started
  honest : o.Honest

section Launches

variable {t : Tree κ} {log : List (HookRun κ)}
variable {o : Outcome κ (σ × List (HookRun κ))}
variable {runs : List (StartRun κ)}
variable (hLaunch : Launch t log o runs)

include hLaunch

/- The answer of a launch says whether the root has started. -/
theorem Launch.started_iff :
    o.tree.status = .started ↔
      ∃ status, o.result = .ok status := by
  cases hResult : o.result with
  | ok status =>
      refine iff_of_true ?_ ⟨status, rfl⟩
      rw [hLaunch.honest.ok status hResult]
      exact hLaunch.started status hResult
  | error e =>
      rw [(hLaunch.honest.error e hResult).1]
      simp

/- A launch that succeeds is one in which no hook fails. -/
theorem Launch.result_eq_ok_iff :
    o.result = .ok .started ↔ ∀ r ∈ runs, r.result = .ok () := by
  have hComplaint :
      o.complaint? = none ↔ ∀ r ∈ runs, r.result = .ok () := by
    rw [hLaunch.complaint, List.findSome?_eq_none_iff]
    simp only [StartRun.complaint_eq_none_iff]
  rw [← hComplaint]
  unfold Outcome.complaint?
  cases hResult : o.result with
  | ok status => simp [hLaunch.started status hResult]
  | error e => simp

/- A launch that fails complains of the first failure. -/
theorem Launch.exists_first_failure
    {e : LifecycleError}
    (hResult : o.result = .error e) :
    ∃ before r after failure,
      runs = before ++ r :: after ∧
      (∀ x ∈ before, x.result = .ok ()) ∧
      r.result = .error failure ∧
      e.message = t.blame failure.message r.address := by
  have hText : runs.findSome? (StartRun.complaint t) =
      some e.message := by
    rw [← hLaunch.complaint]
    unfold Outcome.complaint?
    rw [hResult]
  rcases List.findSome?_eq_some_iff.1 hText with
    ⟨before, r, after, hRuns, hHere, hBefore⟩
  unfold StartRun.complaint at hHere
  cases hFailed : r.result with
  | ok =>
      rw [hFailed] at hHere
      cases hHere
  | error failure =>
      rw [hFailed] at hHere
      refine ⟨before, r, after, failure, hRuns, ?_, hFailed,
        (Option.some.inj hHere).symm⟩
      intro x hMem
      exact StartRun.complaint_eq_none_iff.1 (hBefore x hMem)

/- Where hooks are run. -/
theorem Launch.mem_places_iff
    {p : Address}
    {c : Component κ} :
    (p, c) ∈ runs.map StartRun.place ↔
      t.component? p = some c ∧ c.status ≠ .started ∧
        Reached t o.tree p ∧ o.tree.ChildrenStarted p := by
  have hRan :
      (p, c) ∈ runs.map StartRun.place ↔
        ∃ result, (⟨p, c, result⟩ : StartRun κ) ∈ runs := by
    rw [List.mem_map]
    constructor
    · rintro ⟨⟨q, d, result⟩, hRun, hSame⟩
      cases hSame
      exact ⟨result, hRun⟩
    · rintro ⟨result, hRun⟩
      exact ⟨_, hRun, rfl⟩
  constructor
  · intro hPlace
    have hComponent :=
      mem_tour_iff.1 (hLaunch.toured.subset hPlace)
    rcases hLaunch.fate p c hComponent with ⟨c', -, hFate⟩
    exact ⟨hComponent, hFate.exists_ran_iff.1 (hRan.1 hPlace)⟩
  · rintro ⟨hComponent, hReached⟩
    rcases hLaunch.fate p c hComponent with ⟨c', -, hFate⟩
    exact hRan.2 (hFate.exists_ran_iff.2 hReached)

end Launches

end Tree

end DeviceHub
