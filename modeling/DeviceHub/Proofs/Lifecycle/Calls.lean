import DeviceHub.Lifecycle.Session
import DeviceHub.Proofs.Lifecycle.Address

/-
  What a call can do to a tree of components.

  Every component makes at most one turn: it passes through
  an intermediate status to where it was sent or to an error,
  or is taken out of its error.  The hooks that run are those
  of the tree, and nothing else of them counts.

  Key definitions include:
    * `Status.Passage`
    * `Component.Turn`
    * `Tree.StartOf`, `Tree.StartLoop`
    * `Tree.StopOf`, `Tree.PauseOf`, `Tree.ResetOf`
    * `Tree.Alike`
    * `HookRun.Genuine`

  Main statements:
    * `Tree.each_turn_call`
    * `Tree.alike_call`
    * `Tree.alike_journaled`
-/

namespace DeviceHub

------------------------------------------------------------
-- Turns
------------------------------------------------------------

/-
  The ways from one settled status to another, with what
  lies between.
-/
inductive Status.Passage : Status → Status → Status → Prop where
  | start : Passage .stopped .starting .started
  | resume : Passage .paused .starting .started
  | pause : Passage .started .pausing .paused
  | stop : Passage .started .stopping .terminated
  | stopPaused : Passage .paused .stopping .terminated

namespace Component

variable {κ : Type}

/- What can become of a component in one call. -/
inductive Turn
    (c : Component κ) : Component κ → Prop where
  | rest : Turn c c
  | passed
      {during after : Status}
      (hPassage : Status.Passage c.status during after)
      (asked done : String) :
      Turn c ((c.record during asked).record after done)
  | failed
      {during after : Status}
      (hPassage : Status.Passage c.status during after)
      (asked reason : String) :
      Turn c ((c.record during asked).fail reason)
  | cleared
      (hStatus : c.status = .error) :
      Turn c c.clear

/- Who a component is does not change. -/
theorem Turn.label_eq
    {c c' : Component κ}
    (hTurn : c.Turn c') :
    c'.label = c.label := by
  cases hTurn <;> rfl

end Component

namespace Tree

variable {κ σ : Type}

@[simp]
theorem status_node
    (c : Component κ)
    (ts : List (Tree κ)) :
    (node c ts).status = c.status :=
  rfl

/- All components of a tree have a property. -/
def All
    (P : Component κ → Prop)
    (t : Tree κ) : Prop :=
  ∀ p c, t.component? p = some c → P c

theorem all_node_iff
    {P : Component κ → Prop}
    {c : Component κ}
    {ts : List (Tree κ)} :
    (node c ts).All P ↔ P c ∧ ∀ t ∈ ts, t.All P := by
  constructor
  · intro hAll
    refine ⟨hAll [] c rfl, ?_⟩
    intro t hChild p d hComponent
    rcases List.mem_iff_getElem?.1 hChild with ⟨i, hi⟩
    exact hAll (i :: p) d
      (component?_cons_eq_some_iff.2 ⟨t, hi, hComponent⟩)
  · rintro ⟨hSelf, hChildren⟩ p d hComponent
    cases p with
    | nil =>
        cases hComponent
        exact hSelf
    | cons i p =>
        rcases component?_cons_eq_some_iff.1 hComponent with
          ⟨t, hi, hBelow⟩
        exact hChildren t (List.mem_of_getElem? hi) p d hBelow

/- All components are at the roots of parts. -/
theorem all_iff_parts
    {P : Component κ → Prop}
    {t : Tree κ} :
    t.All P ↔ ∀ u ∈ t.parts, P u.self := by
  constructor
  · intro hAll u hMem
    rcases mem_parts_iff.1 hMem with ⟨p, hPart⟩
    refine hAll p u.self ?_
    unfold component?
    rw [hPart]
    rfl
  · intro hParts p c hComponent
    unfold component? at hComponent
    rcases Option.map_eq_some_iff.1 hComponent with
      ⟨u, hPart, rfl⟩
    exact hParts u (mem_parts_iff.2 ⟨p, hPart⟩)

------------------------------------------------------------
-- The Ways in Which Calls Go
------------------------------------------------------------

/- A hook ends well or badly. -/
theorem runHook_cases
    (hooks : Hooks κ σ)
    (hook : Hook)
    (c : Component κ)
    (ts : List (Tree κ))
    (status : Status)
    (reason : String)
    (s : σ) :
    (∃ s', hooks c hook s = (.ok (), s') ∧
      runHook hooks hook c ts status reason s =
        reached c ts status reason s') ∨
    ∃ e s', hooks c hook s = (.error e, s') ∧
      runHook hooks hook c ts status reason s =
        failed c ts e s' := by
  unfold runHook
  cases hRun : hooks c hook s with
  | mk result s' =>
      cases result with
      | ok => exact .inl ⟨s', rfl, rfl⟩
      | error e => exact .inr ⟨e, s', rfl, rfl⟩

/- The ways in which the start of a component can go. -/
inductive StartOf
    (hooks : Hooks κ σ)
    (c : Component κ)
    (ts : List (Tree κ))
    (s : σ) : Outcome κ σ → Prop where
  | refused
      (hStopped : c.status ≠ .stopped)
      (hPaused : c.status ≠ .paused) :
      StartOf hooks c ts s
        (rejected (node c ts) (c.rejection .start) s)
  | resumed
      (hPaused : c.status = .paused) :
      StartOf hooks c ts s
        (runHook hooks .resume
          (c.record .starting "start requested") ts .started
          "resumed" s)
  | blocked
      {e : LifecycleError}
      (hStopped : c.status = .stopped)
      (hFailure :
        (startAll hooks c.name c.policy ts s).failure =
          some e) :
      StartOf hooks c ts s
        (failed (c.record .starting "start requested")
          (startAll hooks c.name c.policy ts s).trees e
          (startAll hooks c.name c.policy ts s).state)
  | ready
      (hStopped : c.status = .stopped)
      (hFailure :
        (startAll hooks c.name c.policy ts s).failure =
          none) :
      StartOf hooks c ts s
        (runHook hooks .start
          (c.record .starting "start requested")
          (startAll hooks c.name c.policy ts s).trees .started
          "started"
          (startAll hooks c.name c.policy ts s).state)

theorem start_cases
    (hooks : Hooks κ σ)
    (c : Component κ)
    (ts : List (Tree κ))
    (s : σ) :
    StartOf hooks c ts s (start hooks (node c ts) s) := by
  unfold start
  by_cases hPaused : c.status = .paused
  · simp only [hPaused, if_true]
    exact .resumed hPaused
  · by_cases hStopped : c.status = .stopped
    · simp only [hStopped, reduceCtorEq, if_false, if_true]
      cases hFailure :
        (startAll hooks c.name c.policy ts s).failure with
      | some e => exact .blocked hStopped hFailure
      | none => exact .ready hStopped hFailure
    · simp only [hPaused, hStopped, if_false]
      exact .refused hStopped hPaused

/- The ways in which the start of several trees can go. -/
inductive StartLoop
    (hooks : Hooks κ σ)
    (parent : String)
    (policy : ChildPolicy) :
    List (Tree κ) → σ → ChildrenOutcome κ σ → Prop where
  | done
      {s : σ} :
      StartLoop hooks parent policy [] s ⟨none, [], s⟩
  | skip
      {t : Tree κ}
      {rest : List (Tree κ)}
      {s : σ}
      {r : ChildrenOutcome κ σ}
      (hStarted : t.status = .started)
      (hRest : StartLoop hooks parent policy rest s r) :
      StartLoop hooks parent policy (t :: rest) s
        ⟨r.failure, t :: r.trees, r.state⟩
  | started
      {t : Tree κ}
      {rest : List (Tree κ)}
      {s : σ}
      {r : ChildrenOutcome κ σ}
      {status : Status}
      (hStatus : t.status ≠ .started)
      (hResult : (start hooks t s).result = .ok status)
      (hRest : StartLoop hooks parent policy rest
        (start hooks t s).state r) :
      StartLoop hooks parent policy (t :: rest) s
        ⟨r.failure, (start hooks t s).tree :: r.trees,
          r.state⟩
  | halted
      {t : Tree κ}
      {rest : List (Tree κ)}
      {s : σ}
      {e : LifecycleError}
      (hStatus : t.status ≠ .started)
      (hResult : (start hooks t s).result = .error e)
      (hPolicy : policy = .failFast) :
      StartLoop hooks parent policy (t :: rest) s
        ⟨some (childFailure parent t e),
          (start hooks t s).tree :: rest,
          (start hooks t s).state⟩
  | failed
      {t : Tree κ}
      {rest : List (Tree κ)}
      {s : σ}
      {r : ChildrenOutcome κ σ}
      {e : LifecycleError}
      (hStatus : t.status ≠ .started)
      (hResult : (start hooks t s).result = .error e)
      (hPolicy : policy = .continue)
      (hRest : StartLoop hooks parent policy rest
        (start hooks t s).state r) :
      StartLoop hooks parent policy (t :: rest) s
        ⟨some (childFailure parent t e),
          (start hooks t s).tree :: r.trees, r.state⟩

theorem startAll_cases
    (hooks : Hooks κ σ)
    (parent : String)
    (policy : ChildPolicy)
    (ts : List (Tree κ))
    (s : σ) :
    StartLoop hooks parent policy ts s
      (startAll hooks parent policy ts s) := by
  induction ts generalizing s with
  | nil =>
      unfold startAll
      exact .done
  | cons t rest ih =>
      unfold startAll
      by_cases hStarted : t.status = .started
      · simp only [hStarted, if_true]
        exact .skip hStarted (ih s)
      · simp only [hStarted, if_false]
        cases hResult : (start hooks t s).result with
        | ok status => exact .started hStarted hResult (ih _)
        | error e =>
            cases policy with
            | «continue» =>
                exact .failed hStarted hResult rfl (ih _)
            | failFast => exact .halted hStarted hResult rfl

/- The ways in which the stop of a component can go. -/
inductive StopOf
    (hooks : Hooks κ σ)
    (c : Component κ)
    (ts : List (Tree κ))
    (s : σ) : Outcome κ σ → Prop where
  | refused
      (hStatus : c.status.canStop = false) :
      StopOf hooks c ts s
        (rejected (node c ts) (c.rejection .stop) s)
  | failed
      {own : Except LifecycleError Unit × σ}
      {r : ChildrenOutcome κ σ}
      {e : LifecycleError}
      (hStatus : c.status.canStop = true)
      (hOwn : own = hooks
        (c.record .stopping "stop requested") .stop s)
      (hChildren : r = stopAll hooks c.name ts own.2) :
      StopOf hooks c ts s
        (failed (c.record .stopping "stop requested")
          r.trees e r.state)
  | stopped
      {own : Except LifecycleError Unit × σ}
      {r : ChildrenOutcome κ σ}
      (hStatus : c.status.canStop = true)
      (hOwn : own = hooks
        (c.record .stopping "stop requested") .stop s)
      (hChildren : r = stopAll hooks c.name ts own.2) :
      StopOf hooks c ts s
        (reached (c.record .stopping "stop requested")
          r.trees .terminated "stopped" r.state)

theorem stop_cases
    (hooks : Hooks κ σ)
    (c : Component κ)
    (ts : List (Tree κ))
    (s : σ) :
    StopOf hooks c ts s (stop hooks (node c ts) s) := by
  unfold stop
  cases hStatus : c.status.canStop with
  | false => exact .refused hStatus
  | true =>
      simp only [if_true]
      split
      · exact .failed hStatus rfl rfl
      · exact .failed hStatus rfl rfl
      · exact .stopped hStatus rfl rfl

/- The ways in which a pause can go. -/
inductive PauseOf
    (hooks : Hooks κ σ)
    (c : Component κ)
    (ts : List (Tree κ))
    (s : σ) : Outcome κ σ → Prop where
  | inError
      (hStatus : c.status = .error) :
      PauseOf hooks c ts s
        (rejected (node c ts) (.inErrorState c.name) s)
  | idle
      (hStatus : c.status ≠ .error)
      (hCanPause : c.canPause = false) :
      PauseOf hooks c ts s ⟨.ok c.status, node c ts, s⟩
  | refused
      (hError : c.status ≠ .error)
      (hCanPause : c.canPause = true)
      (hStarted : c.status ≠ .started) :
      PauseOf hooks c ts s
        (rejected (node c ts) (c.rejection .pause) s)
  | ready
      (hCanPause : c.canPause = true)
      (hStarted : c.status = .started) :
      PauseOf hooks c ts s
        (runHook hooks .pause
          (c.record .pausing "pause requested") ts .paused
          "paused" s)

theorem pause_cases
    (hooks : Hooks κ σ)
    (c : Component κ)
    (ts : List (Tree κ))
    (s : σ) :
    PauseOf hooks c ts s (pause hooks (node c ts) s) := by
  unfold pause
  by_cases hError : c.status = .error
  · simp only [hError, if_true]
    exact .inError hError
  · cases hCanPause : c.canPause with
    | false =>
        simp only [hError, hCanPause, if_false, Bool.not_false,
          if_true]
        exact .idle hError hCanPause
    | true =>
        by_cases hStarted : c.status = .started
        · simp only [hStarted, hCanPause, reduceCtorEq,
            if_false, Bool.not_true, Bool.false_eq_true,
            if_true]
          exact .ready hCanPause hStarted
        · simp only [hError, hStarted, hCanPause, if_false,
            Bool.not_true, Bool.false_eq_true]
          exact .refused hError hCanPause hStarted

/- The ways in which a reset can go. -/
inductive ResetOf
    (c : Component κ)
    (ts : List (Tree κ))
    (s : σ) : Outcome κ σ → Prop where
  | refused
      (hStatus : c.status ≠ .error) :
      ResetOf c ts s
        (rejected (node c ts)
          (.invalidTransition c.name c.status .reset) s)
  | cleared
      (hStatus : c.status = .error) :
      ResetOf c ts s ⟨.ok .stopped, node c.clear ts, s⟩

theorem reset_cases
    (c : Component κ)
    (ts : List (Tree κ))
    (s : σ) :
    ResetOf c ts s (reset (node c ts) s) := by
  unfold reset
  by_cases hStatus : c.status = .error
  · simp only [hStatus, if_true]
    exact .cleared hStatus
  · simp only [hStatus, if_false]
    exact .refused hStatus

------------------------------------------------------------
-- Every Component Makes a Turn
------------------------------------------------------------

theorem forall₂_turn_refl
    (ts : List (Tree κ)) :
    List.Forall₂ (Each Component.Turn) ts ts :=
  List.forall₂_same.2 fun t _ =>
    Each.refl (fun _ => .rest) t

/- A component whose hook runs makes the turn it is at. -/
theorem each_turn_runHook
    (hooks : Hooks κ σ)
    (hook : Hook)
    {c : Component κ}
    {ts ts' : List (Tree κ)}
    {during after : Status}
    (hPassage : Status.Passage c.status during after)
    (hChildren :
      List.Forall₂ (Each Component.Turn) ts ts')
    (asked done : String)
    (s : σ) :
    Each Component.Turn (node c ts)
      (runHook hooks hook (c.record during asked) ts' after
        done s).tree := by
  rcases runHook_cases hooks hook (c.record during asked) ts'
      after done s with ⟨s', -, hRun⟩ | ⟨e, s', -, hRun⟩
  · rw [hRun]
    exact .node (.passed hPassage asked done) hChildren
  · rw [hRun]
    exact .node (.failed hPassage asked e.message) hChildren

theorem StartLoop.each_turn
    {hooks : Hooks κ σ}
    {parent : String}
    {policy : ChildPolicy}
    {ts : List (Tree κ)}
    {s : σ}
    {r : ChildrenOutcome κ σ}
    (hLoop : StartLoop hooks parent policy ts s r)
    (hEach : ∀ t ∈ ts, ∀ s,
      Each Component.Turn t (start hooks t s).tree) :
    List.Forall₂ (Each Component.Turn) ts r.trees := by
  induction hLoop with
  | done => exact .nil
  | skip _ _ ih =>
      exact .cons (Each.refl (fun _ => .rest) _)
        (ih fun t ht => hEach t (.tail _ ht))
  | started _ _ _ ih =>
      exact .cons (hEach _ (.head _) _)
        (ih fun t ht => hEach t (.tail _ ht))
  | halted =>
      exact .cons (hEach _ (.head _) _) (forall₂_turn_refl _)
  | failed _ _ _ _ ih =>
      exact .cons (hEach _ (.head _) _)
        (ih fun t ht => hEach t (.tail _ ht))

theorem each_turn_start
    (hooks : Hooks κ σ)
    (t : Tree κ)
    (s : σ) :
    Each Component.Turn t (start hooks t s).tree := by
  induction t generalizing s with
  | node c ts ih =>
      have hChildren :=
        (startAll_cases hooks c.name c.policy ts s).each_turn
          ih
      have hWay := start_cases hooks c ts s
      generalize start hooks (node c ts) s = o at hWay ⊢
      cases hWay with
      | refused => exact Each.refl (fun _ => .rest) _
      | resumed hPaused =>
          refine each_turn_runHook hooks .resume ?_
            (forall₂_turn_refl ts) _ _ s
          rw [hPaused]
          exact .resume
      | blocked hStopped =>
          have hPassage :
              Status.Passage c.status .starting .started := by
            rw [hStopped]
            exact .start
          exact .node (.failed hPassage _ _) hChildren
      | ready hStopped =>
          refine each_turn_runHook hooks .start ?_ hChildren
            _ _ _
          rw [hStopped]
          exact .start

theorem each_turn_stopAll
    {hooks : Hooks κ σ}
    {ts : List (Tree κ)}
    (hEach : ∀ t ∈ ts, ∀ s,
      Each Component.Turn t (stop hooks t s).tree)
    (parent : String)
    (s : σ) :
    List.Forall₂ (Each Component.Turn) ts
      (stopAll hooks parent ts s).trees := by
  induction ts with
  | nil =>
      unfold stopAll
      exact .nil
  | cons t rest ih =>
      have hRest := ih fun u hu => hEach u (.tail _ hu)
      unfold stopAll
      cases t.status.canStop with
      | false =>
          exact .cons (Each.refl (fun _ => .rest) t) hRest
      | true =>
          simp only [if_true]
          split
          · exact .cons (hEach t (.head _) _) hRest
          · exact .cons (hEach t (.head _) _) hRest

theorem passage_of_canStop
    {status : Status}
    (hStatus : status.canStop = true) :
    Status.Passage status .stopping .terminated := by
  cases status with
  | started => exact .stop
  | paused => exact .stopPaused
  | _ => cases hStatus

theorem each_turn_stop
    (hooks : Hooks κ σ)
    (t : Tree κ)
    (s : σ) :
    Each Component.Turn t (stop hooks t s).tree := by
  induction t generalizing s with
  | node c ts ih =>
      have hWay := stop_cases hooks c ts s
      generalize stop hooks (node c ts) s = o at hWay ⊢
      cases hWay with
      | refused => exact Each.refl (fun _ => .rest) _
      | failed hStatus _ hChildren =>
          subst hChildren
          exact .node (.failed (passage_of_canStop hStatus) _ _)
            (each_turn_stopAll ih _ _)
      | stopped hStatus _ hChildren =>
          subst hChildren
          exact .node (.passed (passage_of_canStop hStatus) _ _)
            (each_turn_stopAll ih _ _)

theorem each_turn_pause
    (hooks : Hooks κ σ)
    (c : Component κ)
    (ts : List (Tree κ))
    (s : σ) :
    Each Component.Turn (node c ts)
      (pause hooks (node c ts) s).tree := by
  have hWay := pause_cases hooks c ts s
  generalize pause hooks (node c ts) s = o at hWay ⊢
  cases hWay with
  | ready _ hStarted =>
      refine each_turn_runHook hooks .pause ?_
        (forall₂_turn_refl ts) _ _ s
      rw [hStarted]
      exact .pause
  | _ => exact Each.refl (fun _ => .rest) _

theorem each_turn_reset
    (c : Component κ)
    (ts : List (Tree κ))
    (s : σ) :
    Each Component.Turn (node c ts)
      (reset (node c ts) s).tree := by
  have hWay := reset_cases c ts s
  generalize reset (node c ts) s = o at hWay ⊢
  cases hWay with
  | refused => exact Each.refl (fun _ => .rest) _
  | cleared hStatus =>
      exact .node (.cleared hStatus) (forall₂_turn_refl ts)

/- In a call, every component makes at most one turn. -/
theorem each_turn_call
    (hooks : Hooks κ σ)
    (action : LifecycleAction)
    (t : Tree κ)
    (s : σ) :
    Each Component.Turn t (t.call hooks action s).tree := by
  cases t with
  | node c ts =>
      cases action with
      | start => exact each_turn_start hooks _ s
      | pause => exact each_turn_pause hooks c ts s
      | stop => exact each_turn_stop hooks _ s
      | reset => exact each_turn_reset c ts s

------------------------------------------------------------
-- What Calls Depend On
------------------------------------------------------------

/-
  Two families of hooks answer alike for some components, and
  keep their states related by `S`.
-/
def HooksAgree
    {τ : Type}
    (P : κ → Prop)
    (S : σ → τ → Prop)
    (hooks : Hooks κ σ)
    (hooks' : Hooks κ τ) : Prop :=
  ∀ c hook s s', P c.label → S s s' →
    (hooks c hook s).1 = (hooks' c hook s').1 ∧
      S (hooks c hook s).2 (hooks' c hook s').2

/- The same answer and the same tree, in related states. -/
structure Alike
    {τ : Type}
    (S : σ → τ → Prop)
    (o : Outcome κ σ)
    (o' : Outcome κ τ) : Prop where
  result : o.result = o'.result
  tree : o.tree = o'.tree
  state : S o.state o'.state

/- The same for several trees. -/
structure AlikeAll
    {τ : Type}
    (S : σ → τ → Prop)
    (r : ChildrenOutcome κ σ)
    (r' : ChildrenOutcome κ τ) : Prop where
  failure : r.failure = r'.failure
  trees : r.trees = r'.trees
  state : S r.state r'.state

section Agreement

variable {τ : Type}
variable {P : κ → Prop} {S : σ → τ → Prop}
variable {hooks : Hooks κ σ} {hooks' : Hooks κ τ}

theorem alikeAll_startAll
    {ts : List (Tree κ)}
    (hEach : ∀ t ∈ ts, ∀ s s', S s s' →
      Alike S (start hooks t s) (start hooks' t s'))
    (parent : String)
    (policy : ChildPolicy)
    {s : σ}
    {s' : τ}
    (hState : S s s') :
    AlikeAll S (startAll hooks parent policy ts s)
      (startAll hooks' parent policy ts s') := by
  induction ts generalizing s s' with
  | nil =>
      unfold startAll
      exact ⟨rfl, rfl, hState⟩
  | cons t rest ih =>
      have hRest : ∀ s s', S s s' → AlikeAll S
          (startAll hooks parent policy rest s)
          (startAll hooks' parent policy rest s') :=
        fun _ _ => ih fun u hu => hEach u (.tail _ hu)
      unfold startAll
      by_cases hStarted : t.status = .started
      · have hLater := hRest s s' hState
        simp only [hStarted, if_true]
        exact ⟨hLater.failure,
          congrArg _ hLater.trees, hLater.state⟩
      · have hHead := hEach t (.head _) s s' hState
        have hLater := hRest _ _ hHead.state
        simp only [hStarted, if_false, hHead.result,
          hHead.tree]
        cases (start hooks' t s').result with
        | ok status =>
            exact ⟨hLater.failure,
              congrArg _ hLater.trees, hLater.state⟩
        | error e =>
            cases policy with
            | «continue» =>
                exact ⟨rfl, congrArg _ hLater.trees,
                  hLater.state⟩
            | failFast => exact ⟨rfl, rfl, hHead.state⟩

theorem alikeAll_stopAll
    {ts : List (Tree κ)}
    (hEach : ∀ t ∈ ts, ∀ s s', S s s' →
      Alike S (stop hooks t s) (stop hooks' t s'))
    (parent : String)
    {s : σ}
    {s' : τ}
    (hState : S s s') :
    AlikeAll S (stopAll hooks parent ts s)
      (stopAll hooks' parent ts s') := by
  induction ts with
  | nil =>
      unfold stopAll
      exact ⟨rfl, rfl, hState⟩
  | cons t rest ih =>
      have hRest := ih fun u hu => hEach u (.tail _ hu)
      have hHead := hEach t (.head _) _ _ hRest.state
      unfold stopAll
      cases t.status.canStop with
      | false =>
          exact ⟨hRest.failure,
            congrArg _ hRest.trees, hRest.state⟩
      | true =>
          simp only [if_true, hHead.result, hHead.tree,
            hRest.failure, hRest.trees]
          cases (stop hooks' t
              (stopAll hooks' parent rest s').state).result
            with
          | ok status => exact ⟨rfl, rfl, hHead.state⟩
          | error e => exact ⟨rfl, rfl, hHead.state⟩

variable (hAgree : HooksAgree P S hooks hooks')

include hAgree

theorem alike_runHook
    (hook : Hook)
    (c : Component κ)
    (hOwned : P c.label)
    (ts : List (Tree κ))
    (status : Status)
    (reason : String)
    {s : σ}
    {s' : τ}
    (hState : S s s') :
    Alike S (runHook hooks hook c ts status reason s)
      (runHook hooks' hook c ts status reason s') := by
  rcases hAgree c hook s s' hOwned hState with
    ⟨hResult, hNext⟩
  unfold runHook
  cases hRun : hooks c hook s with
  | mk result next =>
      cases hRun' : hooks' c hook s' with
      | mk result' next' =>
          rw [hRun, hRun'] at hResult hNext
          cases hResult
          cases result with
          | ok => exact ⟨rfl, rfl, hNext⟩
          | error e => exact ⟨rfl, rfl, hNext⟩

theorem alike_start
    {t : Tree κ}
    (hOwned : t.All fun c => P c.label)
    {s : σ}
    {s' : τ}
    (hState : S s s') :
    Alike S (start hooks t s) (start hooks' t s') := by
  induction t generalizing s s' with
  | node c ts ih =>
      rcases all_node_iff.1 hOwned with ⟨hSelf, hChildren⟩
      have hAll := alikeAll_startAll
        (fun t ht _ _ h => ih t ht (hChildren t ht) h)
        c.name c.policy hState
      unfold start
      by_cases hPaused : c.status = .paused
      · simp only [hPaused, if_true]
        exact alike_runHook hAgree .resume
          (c.record .starting "start requested") hSelf ts _ _
          hState
      · by_cases hStopped : c.status = .stopped
        · simp only [hStopped, reduceCtorEq, if_false, if_true,
            hAll.failure, hAll.trees]
          cases (startAll hooks' c.name c.policy ts
              s').failure with
          | some e => exact ⟨rfl, rfl, hAll.state⟩
          | none =>
              exact alike_runHook hAgree .start
                (c.record .starting "start requested") hSelf
                _ _ _ hAll.state
        · simp only [hPaused, hStopped, if_false]
          exact ⟨rfl, rfl, hState⟩

theorem alike_stop
    {t : Tree κ}
    (hOwned : t.All fun c => P c.label)
    {s : σ}
    {s' : τ}
    (hState : S s s') :
    Alike S (stop hooks t s) (stop hooks' t s') := by
  induction t generalizing s s' with
  | node c ts ih =>
      rcases all_node_iff.1 hOwned with ⟨hSelf, hChildren⟩
      rcases hAgree (c.record .stopping "stop requested") .stop
        s s' hSelf hState with ⟨hOwn, hNext⟩
      have hAll := alikeAll_stopAll
        (fun t ht _ _ h => ih t ht (hChildren t ht) h)
        c.name hNext
      unfold stop
      cases c.status.canStop with
      | false => exact ⟨rfl, rfl, hState⟩
      | true =>
          simp only [if_true, hOwn, hAll.failure, hAll.trees]
          split
          · exact ⟨rfl, rfl, hAll.state⟩
          · exact ⟨rfl, rfl, hAll.state⟩
          · exact ⟨rfl, rfl, hAll.state⟩

theorem alike_pause
    {c : Component κ}
    (hOwned : P c.label)
    (ts : List (Tree κ))
    {s : σ}
    {s' : τ}
    (hState : S s s') :
    Alike S (pause hooks (node c ts) s)
      (pause hooks' (node c ts) s') := by
  have hHook := alike_runHook hAgree .pause
    (c.record .pausing "pause requested") hOwned ts .paused
    "paused" hState
  unfold pause
  by_cases hError : c.status = .error
  · simp only [hError, if_true]
    exact ⟨rfl, rfl, hState⟩
  · cases hCanPause : c.canPause with
    | false =>
        simp only [hError, hCanPause, if_false, Bool.not_false,
          if_true]
        exact ⟨rfl, rfl, hState⟩
    | true =>
        by_cases hStarted : c.status = .started
        · simp only [hStarted, hCanPause, reduceCtorEq,
            if_false, Bool.not_true, Bool.false_eq_true,
            if_true]
          exact hHook
        · simp only [hError, hStarted, hCanPause, if_false,
            Bool.not_true, Bool.false_eq_true]
          exact ⟨rfl, rfl, hState⟩

/-
  A call depends on nothing of the hooks but what they do for
  the components of the tree.
-/
theorem alike_call
    (action : LifecycleAction)
    {t : Tree κ}
    (hOwned : t.All fun c => P c.label)
    {s : σ}
    {s' : τ}
    (hState : S s s') :
    Alike S (t.call hooks action s)
      (t.call hooks' action s') := by
  cases t with
  | node c ts =>
      cases action with
      | start => exact alike_start hAgree hOwned hState
      | pause =>
          exact alike_pause hAgree (all_node_iff.1 hOwned).1
            ts hState
      | stop => exact alike_stop hAgree hOwned hState
      | reset =>
          change Alike S (reset (node c ts) s)
            (reset (node c ts) s')
          unfold reset
          by_cases hError : c.status = .error
          · simp only [hError, if_true]
            exact ⟨rfl, rfl, hState⟩
          · simp only [hError, if_false]
            exact ⟨rfl, rfl, hState⟩

end Agreement

end Tree

------------------------------------------------------------
-- Journals of Hooks
------------------------------------------------------------

/-
  A run in a journal is of a component of the tree, and ended
  as its hook did.
-/
structure HookRun.Genuine
    {κ σ : Type}
    (r : HookRun κ)
    (hooks : Hooks κ σ)
    (t : Tree κ) : Prop where
  owned : ∃ p c, t.component? p = some c ∧ c.label = r.label
  told : ∃ c s, c.label = r.label ∧
    (hooks c r.hook s).1 = r.result

namespace Tree

variable {κ σ : Type}

/- A journal changes nothing, and only genuine runs get in. -/
theorem alike_journaled
    (hooks : Hooks κ σ)
    (action : LifecycleAction)
    (t : Tree κ)
    (s : σ)
    (log : List (HookRun κ)) :
    Alike
      (fun j s => j.1 = s ∧ ∃ runs, j.2 = log ++ runs ∧
        ∀ r ∈ runs, r.Genuine hooks t)
      (t.call hooks.journaled action (s, log))
      (t.call hooks action s) := by
  refine alike_call
    (P := fun k => ∃ p c, t.component? p = some c ∧ c.label = k)
    ?_ action (fun p c hc => ⟨p, c, hc, rfl⟩)
    ⟨rfl, [], (List.append_nil log).symm, ?_⟩
  · rintro c hook ⟨s₁, log₁⟩ s₂ hOwned ⟨rfl, runs, rfl, hRuns⟩
    refine ⟨rfl, rfl,
      runs ++ [⟨c.label, hook, (hooks c hook s₁).1⟩], ?_, ?_⟩
    · exact List.append_assoc log runs _
    · intro r hMem
      rcases List.mem_append.1 hMem with hEarlier | hLast
      · exact hRuns r hEarlier
      · rw [List.mem_singleton.1 hLast]
        exact ⟨hOwned, c, s₁, rfl, rfl⟩
  · intro r hMem
    cases hMem

end Tree

end DeviceHub
