import DeviceHub.Proofs.Lifecycle.Answers
import DeviceHub.Proofs.Lifecycle.Keeping

/-
  Trees in which it is settled how every hook ends.

  Where the parents go on after failures, every part of such
  a tree starts as it would by itself: it has started if all
  its hooks end well, and is in error otherwise.  A tree that
  has started stops as a whole.

  Key definitions include:
    * `Tree.verdictHooks`
    * `Tree.Fresh`
    * `Tree.Passes`
    * `Tree.launched`

  Main statements:
    * `Tree.alike_verdicts`
    * `Tree.part?_launched`
    * `Tree.status_launched`
    * `Tree.mem_parts_launched`
    * `Tree.Fresh.error_of_child`
    * `Tree.stop_verdicts`
-/

namespace DeviceHub

namespace Tree

variable {κ σ : Type}

------------------------------------------------------------
-- Verdicts
------------------------------------------------------------

/- Hooks that end as it is settled, and do nothing. -/
def verdictHooks
    (v : κ → Hook → Except LifecycleError Unit) :
    Hooks κ Unit :=
  fun c hook _ => (v c.label hook, ())

/-
  If it is settled how hooks end while a property holds, and
  they keep this property, calls go as they do by verdicts.
-/
theorem alike_verdicts
    {v : κ → Hook → Except LifecycleError Unit}
    {hooks : Hooks κ σ}
    {Q : σ → Prop}
    (hSettled : ∀ c hook s, Q s →
      (hooks c hook s).1 = v c.label hook ∧
        Q (hooks c hook s).2)
    (action : LifecycleAction)
    (t : Tree κ)
    {s : σ}
    (hState : Q s) :
    Alike (fun s _ => Q s) (t.call hooks action s)
      (t.call (verdictHooks v) action ()) :=
  alike_call (P := fun _ => True)
    (fun c hook s _ _ hs => hSettled c hook s hs) action
    (fun _ _ _ => trivial) hState

/- Components that were never started and go on. -/
def Fresh
    (t : Tree κ) : Prop :=
  t.All fun c => c.status = .stopped ∧ c.policy = .continue

/- All hooks of a tree end well at a turn. -/
def Passes
    (v : κ → Hook → Except LifecycleError Unit)
    (hook : Hook)
    (t : Tree κ) : Prop :=
  t.All fun c => v c.label hook = .ok ()

/- A component without children has one hook. -/
theorem passes_leaf_iff
    {v : κ → Hook → Except LifecycleError Unit}
    {hook : Hook}
    {c : Component κ} :
    (leaf c).Passes v hook ↔ v c.label hook = .ok () :=
  all_node_iff.trans
    ⟨And.left, fun hOwn => ⟨hOwn, fun _ hMem => by cases hMem⟩⟩

variable (v : κ → Hook → Except LifecycleError Unit)

/- A tree after its start. -/
def launched
    (t : Tree κ) : Tree κ :=
  (start (verdictHooks v) t ()).tree

/- What a parent says of the start of a child. -/
def complaintOf?
    (parent : String)
    (t : Tree κ) : Option LifecycleError :=
  match (start (verdictHooks v) t ()).result with
  | .ok _ => none
  | .error e => some (childFailure parent t e)

------------------------------------------------------------
-- Starting
------------------------------------------------------------

/- Children start one by one, whatever becomes of others. -/
theorem startAll_verdicts
    (parent : String)
    {ts : List (Tree κ)}
    (hIdle : ∀ t ∈ ts, t.status ≠ .started) :
    startAll (verdictHooks v) parent .continue ts () =
      ⟨ts.findSome? (complaintOf? v parent),
        ts.map (launched v), ()⟩ := by
  induction ts with
  | nil => rfl
  | cons t rest ih =>
      have hRest := ih fun u hu => hIdle u (.tail _ hu)
      unfold startAll
      simp only [hIdle t (.head _), if_false, hRest,
        List.findSome?_cons, List.map_cons]
      unfold complaintOf?
      cases (start (verdictHooks v) t ()).result with
      | ok status => rfl
      | error e => rfl

theorem Fresh.idle
    {c : Component κ}
    {ts : List (Tree κ)}
    (hFresh : (node c ts).Fresh) :
    ∀ t ∈ ts, t.status ≠ .started := by
  intro t hChild hStarted
  cases t with
  | node d us =>
      have hBelow :=
        (all_node_iff.1 hFresh).2 _ hChild [] d rfl
      rw [status_node, hBelow.1] at hStarted
      cases hStarted

/- The two ways in which a fresh component starts. -/
theorem Fresh.start_eq
    {c : Component κ}
    {ts : List (Tree κ)}
    (hFresh : (node c ts).Fresh) :
    start (verdictHooks v) (node c ts) () =
      match ts.findSome? (complaintOf? v c.name) with
      | some e =>
          failed (c.record .starting "start requested")
            (ts.map (launched v)) e ()
      | none =>
          runHook (verdictHooks v) .start
            (c.record .starting "start requested")
            (ts.map (launched v)) .started "started" () := by
  have hSelf := (all_node_iff.1 hFresh).1
  have hChildren := startAll_verdicts v c.name hFresh.idle
  unfold start
  cases hFailure : ts.findSome? (complaintOf? v c.name) with
  | none | some e =>
      rw [hFailure] at hChildren
      simp only [hSelf.1, hSelf.2, reduceCtorEq, if_false,
        if_true, hChildren]

/- What is below a component starts by itself. -/
theorem Fresh.children_launched
    {c : Component κ}
    {ts : List (Tree κ)}
    (hFresh : (node c ts).Fresh) :
    (launched v (node c ts)).children =
      ts.map (launched v) := by
  unfold launched
  rw [hFresh.start_eq]
  cases ts.findSome? (complaintOf? v c.name) with
  | some e => rfl
  | none =>
      dsimp only
      unfold runHook verdictHooks
      cases v (c.record .starting "start requested").label
          .start with
      | ok => rfl
      | error e => rfl

/- Every part of a tree starts as it does by itself. -/
theorem part?_launched
    {t u : Tree κ}
    (hFresh : t.Fresh)
    {p : Address}
    (hPart : t.part? p = some u) :
    (launched v t).part? p = some (launched v u) := by
  induction p generalizing t with
  | nil =>
      cases hPart
      rfl
  | cons i p ih =>
      cases t with
      | node c ts =>
          rcases Option.bind_eq_some_iff.1 hPart with
            ⟨w, hChild, hBelow⟩
          have hBelowFresh := (all_node_iff.1 hFresh).2 w
            (List.mem_of_getElem? hChild)
          rw [part?, hFresh.children_launched,
            List.getElem?_map]
          have hi : ts[i]? = some w := hChild
          rw [hi]
          exact ih hBelowFresh hBelow

/- A start that ends well leads to one status only. -/
theorem Fresh.started_of_ok
    {t : Tree κ}
    (hFresh : t.Fresh)
    {status : Status}
    (hOk : (start (verdictHooks v) t ()).result = .ok status) :
    status = .started := by
  cases t with
  | node c ts =>
      rw [hFresh.start_eq] at hOk
      cases hFailure :
          ts.findSome? (complaintOf? v c.name) with
      | some e =>
          rw [hFailure] at hOk
          cases hOk
      | none =>
          rw [hFailure] at hOk
          dsimp only at hOk
          unfold runHook verdictHooks at hOk
          cases hVerdict :
              v (c.record .starting "start requested").label
                .start with
          | ok =>
              rw [hVerdict] at hOk
              cases hOk
              rfl
          | error e =>
              rw [hVerdict] at hOk
              cases hOk

/- Nothing is said of a child that has started. -/
theorem Fresh.complaintOf?_eq_none_iff
    {t : Tree κ}
    (hFresh : t.Fresh)
    {parent : String} :
    complaintOf? v parent t = none ↔
      (start (verdictHooks v) t ()).result = .ok .started := by
  unfold complaintOf?
  cases hResult : (start (verdictHooks v) t ()).result with
  | ok status =>
      rw [hFresh.started_of_ok v hResult]
      exact iff_of_true rfl rfl
  | error e => exact iff_of_false nofun nofun

/- A tree starts well if all its hooks end well. -/
theorem start_ok_iff
    {t : Tree κ}
    (hFresh : t.Fresh) :
    (start (verdictHooks v) t ()).result = .ok .started ↔
      t.Passes v .start := by
  induction t with
  | node c ts ih =>
      have hBelow : ∀ t ∈ ts, t.Fresh :=
        (all_node_iff.1 hFresh).2
      have hChildren :
          ts.findSome? (complaintOf? v c.name) = none ↔
            ∀ t ∈ ts, t.Passes v .start := by
        rw [List.findSome?_eq_none_iff]
        refine forall₂_congr fun t hChild => ?_
        rw [(hBelow t hChild).complaintOf?_eq_none_iff]
        exact ih t hChild (hBelow t hChild)
      rw [hFresh.start_eq, Passes, all_node_iff]
      cases hFailure :
          ts.findSome? (complaintOf? v c.name) with
      | some e =>
          rw [hFailure] at hChildren
          refine iff_of_false nofun fun hAll => ?_
          cases hChildren.2 hAll.2
      | none =>
          have hAll := hChildren.1 hFailure
          dsimp only
          unfold runHook verdictHooks
          have hLabel : (c.record .starting "start requested"
              ).label = c.label := rfl
          rw [hLabel]
          cases v c.label .start with
          | ok => exact iff_of_true rfl ⟨rfl, hAll⟩
          | error e => exact iff_of_false nofun nofun

/- Where a tree stands tells whether its hooks end well. -/
theorem status_launched
    {t : Tree κ}
    (hFresh : t.Fresh) :
    (t.Passes v .start →
      (launched v t).status = .started) ∧
    (¬ t.Passes v .start →
      (launched v t).status = .error ∧
      ∃ e, (start (verdictHooks v) t ()).result = .error e ∧
        (launched v t).self.lastError = some e.message) := by
  have hStopped : t.self.status = .stopped :=
    (hFresh [] t.self rfl).1
  have hAdmits : t.self.Admits .start := .inl hStopped
  have hHonest := honest_call (verdictHooks v) hAdmits ()
  rw [← start_ok_iff v hFresh]
  refine ⟨hHonest.ok _, fun hNot => ?_⟩
  cases hResult : (start (verdictHooks v) t ()).result with
  | ok status =>
      rw [hResult, hFresh.started_of_ok v hResult] at hNot
      exact absurd rfl hNot
  | error e =>
      rcases hHonest.error e hResult with ⟨hStatus, hText⟩
      exact ⟨hStatus, e, rfl, hText⟩

/- A component keeps its name when it starts. -/
theorem tag_launched
    (t : Tree κ) :
    (launched v t).tag = t.tag :=
  tag_of_each (each_turn_start (verdictHooks v) t ())

/-
  A parent complains of its first child that is in error,
  with the reason that the child gives.
-/
theorem first_complaint
    {ts : List (Tree κ)}
    (hFresh : ∀ t ∈ ts, t.Fresh)
    {parent : String}
    {e : LifecycleError}
    (hFailure :
      ts.findSome? (complaintOf? v parent) = some e) :
    ∃ u reason,
      (ts.map (launched v)).find? (·.status = .error) =
        some u ∧
      u.self.lastError = some reason ∧
      e = .childFailed parent u.self.name reason := by
  induction ts with
  | nil => cases hFailure
  | cons t rest ih =>
      have hHead := hFresh t (.head _)
      have hStatus := status_launched v hHead
      rw [List.findSome?_cons] at hFailure
      rw [List.map_cons, List.find?_cons]
      by_cases hPasses : t.Passes v .start
      · have hNone : complaintOf? v parent t = none :=
          (hHead.complaintOf?_eq_none_iff v).2
            ((start_ok_iff v hHead).2 hPasses)
        rw [hNone] at hFailure
        rw [hStatus.1 hPasses]
        exact ih (fun u hu => hFresh u (.tail _ hu)) hFailure
      · rcases hStatus.2 hPasses with
          ⟨hError, failure, hResult, hText⟩
        have hSome : complaintOf? v parent t =
            some (childFailure parent t failure) := by
          unfold complaintOf?
          rw [hResult]
        rw [hSome] at hFailure
        cases hFailure
        rw [hError]
        refine ⟨launched v t, failure.message, rfl, hText, ?_⟩
        have hName : (launched v t).self.name = t.self.name :=
          congrArg Prod.snd (tag_launched v t)
        rw [hName]
        rfl

/- A component whose own hook ends well fails by a child. -/
theorem Fresh.error_of_child
    {c : Component κ}
    {ts : List (Tree κ)}
    (hFresh : (node c ts).Fresh)
    (hOwn : v c.label .start = .ok ())
    {e : LifecycleError}
    (hError : (start (verdictHooks v) (node c ts) ()
      ).result = .error e) :
    (launched v (node c ts)).self.lastError =
        some e.message ∧
      ∃ u reason,
        (launched v (node c ts)).children.find?
          (·.status = .error) = some u ∧
        u.self.lastError = some reason ∧
        e = .childFailed c.name u.self.name reason := by
  have hStart := hFresh.start_eq v
  cases hFailure : ts.findSome? (complaintOf? v c.name) with
  | none =>
      rw [hFailure] at hStart
      dsimp only at hStart
      have hRun : verdictHooks v
          (c.record .starting "start requested") .start () =
          (.ok (), ()) := Prod.ext hOwn rfl
      unfold runHook at hStart
      rw [hRun] at hStart
      rw [hStart] at hError
      cases hError
  | some failure =>
      rw [hFailure] at hStart
      rw [hStart] at hError
      cases hError
      refine ⟨?_, ?_⟩
      · unfold launched
        rw [hStart]
        rfl
      · rw [hFresh.children_launched]
        exact first_complaint v (all_node_iff.1 hFresh).2
          hFailure

/- What is true of a tree is true of its parts. -/
theorem All.part
    {P : Component κ → Prop}
    {t u : Tree κ}
    (hAll : t.All P)
    {p : Address}
    (hPart : t.part? p = some u) :
    u.All P := by
  intro q c hComponent
  refine hAll (p ++ q) c ?_
  rw [component?_append hPart]
  exact hComponent

/- The parts after a start are those before it, started. -/
theorem mem_parts_launched
    {t u' : Tree κ}
    (hFresh : t.Fresh)
    (hMem : u' ∈ (launched v t).parts) :
    ∃ u ∈ t.parts, u.Fresh ∧ u' = launched v u := by
  rcases mem_parts_iff.1 hMem with ⟨p, hAfter⟩
  have hEach := each_turn_start (verdictHooks v) t ()
  have hComponent : (launched v t).component? p =
      some u'.self := by
    unfold component?
    rw [hAfter]
    rfl
  rcases hEach.exists_before hComponent with ⟨c, hBefore, -⟩
  unfold component? at hBefore
  rcases Option.map_eq_some_iff.1 hBefore with ⟨u, hPart, -⟩
  refine ⟨u, mem_parts_iff.2 ⟨p, hPart⟩, hFresh.part hPart,
    ?_⟩
  rw [part?_launched v hFresh hPart] at hAfter
  exact (Option.some.inj hAfter).symm

/- Where all hooks end well, everything starts. -/
theorem Passes.all_started
    {t : Tree κ}
    (hPasses : t.Passes v .start)
    (hFresh : t.Fresh) :
    (launched v t).All fun c => c.status = .started := by
  intro p c hComponent
  unfold component? at hComponent
  rcases Option.map_eq_some_iff.1 hComponent with
    ⟨u', hAfter, rfl⟩
  rcases mem_parts_launched v hFresh
      (mem_parts_iff.2 ⟨p, hAfter⟩) with
    ⟨u, hMem, hFreshPart, rfl⟩
  rcases mem_parts_iff.1 hMem with ⟨q, hPart⟩
  exact (status_launched v hFreshPart).1 (hPasses.part hPart)

------------------------------------------------------------
-- Stopping
------------------------------------------------------------

/- Children that stop well leave nothing to complain of. -/
theorem stopAll_verdicts
    (parent : String)
    {ts : List (Tree κ)}
    (hEach : ∀ t ∈ ts, t.status = .started ∧
      (stop (verdictHooks v) t ()).result = .ok .terminated ∧
      (stop (verdictHooks v) t ()).tree.All
        fun c => c.status = .terminated) :
    (stopAll (verdictHooks v) parent ts ()).failure = none ∧
      ∀ t ∈ (stopAll (verdictHooks v) parent ts ()).trees,
        t.All fun c => c.status = .terminated := by
  induction ts with
  | nil => exact ⟨rfl, fun t hMem => by cases hMem⟩
  | cons t rest ih =>
      rcases ih fun u hu => hEach u (.tail _ hu) with
        ⟨hNone, hRest⟩
      rcases hEach t (.head _) with ⟨hStarted, hOk, hTree⟩
      have hCan : t.status.canStop = true := by
        rw [hStarted]
        rfl
      unfold stopAll
      simp only [hCan, if_true, hOk]
      refine ⟨hNone, fun u hMem => ?_⟩
      rcases List.mem_cons.1 hMem with rfl | hLater
      · exact hTree
      · exact hRest u hLater

/- A tree that has started as a whole stops as a whole. -/
theorem stop_verdicts
    {t : Tree κ}
    (hStarted : t.All fun c => c.status = .started)
    (hPasses : t.Passes v .stop) :
    (stop (verdictHooks v) t ()).result = .ok .terminated ∧
      (stop (verdictHooks v) t ()).tree.All
        fun c => c.status = .terminated := by
  induction t with
  | node c ts ih =>
      rcases all_node_iff.1 hStarted with ⟨hSelf, hBelow⟩
      rcases all_node_iff.1 hPasses with ⟨hOwn, hHooks⟩
      rcases stopAll_verdicts v c.name fun t hChild =>
          ⟨hBelow t hChild [] t.self rfl,
            ih t hChild (hBelow t hChild) (hHooks t hChild)⟩
        with ⟨hNone, hTrees⟩
      have hCan : c.status.canStop = true := by
        rw [hSelf]
        rfl
      have hVerdict : verdictHooks v
          (c.record .stopping "stop requested") .stop () =
          (.ok (), ()) := Prod.ext hOwn rfl
      unfold stop
      simp only [hCan, if_true, hVerdict, hNone]
      exact ⟨rfl, all_node_iff.2 ⟨rfl, hTrees⟩⟩

end Tree

end DeviceHub
