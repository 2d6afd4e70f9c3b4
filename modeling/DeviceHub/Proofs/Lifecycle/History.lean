import DeviceHub.Lifecycle.Session
import DeviceHub.Proofs.Lifecycle.Calls
import Mathlib.Data.List.Chain

/-
  What the components of a tree remember of their changes.

  Between calls a component is never on its way: it stands
  in a settled status, and its last error is the reason why
  it is in the error status.  Its history is the newest part
  of all the changes it ever made, each of which the rules
  allow and follows on the one before.

  Key definitions include:
    * `StatusChange.IsLawful`
    * `Status.Walk`
    * `Component.Fresh`
    * `Component.Made`
    * `Component.Accounted`

  Main statements:
    * `Component.Turn.exists_changes`
    * `Component.Recounts.turn`
    * `Tree.exists_recounts_run`
    * `Tree.remembers_newest_changes`
-/

namespace DeviceHub

------------------------------------------------------------
-- Lawful Changes
------------------------------------------------------------

/- From where to where components go. -/
def Status.lawfulChanges : List (Status × Status) :=
  [(.stopped, .starting), (.paused, .starting),
    (.starting, .started), (.starting, .error),
    (.started, .pausing), (.pausing, .paused),
    (.pausing, .error), (.started, .stopping),
    (.paused, .stopping), (.stopping, .terminated),
    (.stopping, .error), (.error, .stopped)]

/- The rules allow a change. -/
def StatusChange.IsLawful
    (m : StatusChange) : Prop :=
  (m.before, m.after) ∈ Status.lawfulChanges

/- Statuses in which a component rests between calls. -/
def Status.settled : List Status :=
  [.stopped, .started, .paused, .error, .terminated]

namespace Status

section Passages

variable {before during after : Status}
variable (hPassage : Passage before during after)

include hPassage

theorem Passage.begins :
    (before, during) ∈ lawfulChanges := by
  cases hPassage <;> decide

theorem Passage.ends :
    (during, after) ∈ lawfulChanges := by
  cases hPassage <;> decide

theorem Passage.breaks_off :
    (during, .error) ∈ lawfulChanges := by
  cases hPassage <;> decide

theorem Passage.before_ne_error :
    before ≠ .error := by
  cases hPassage <;> decide

theorem Passage.after_ne_error :
    after ≠ .error := by
  cases hPassage <;> decide

theorem Passage.after_settled :
    after ∈ settled := by
  cases hPassage <;> decide

end Passages

/- Lawful changes lead from one status to another. -/
inductive Walk
    (first : Status) : List StatusChange → Status → Prop where
  | stay : Walk first [] first
  | change
      {moves : List StatusChange}
      (m : StatusChange)
      (hWalk : Walk first moves m.before)
      (hLawful : m.IsLawful) :
      Walk first (moves ++ [m]) m.after

namespace Walk

variable {first last other : Status}
variable {moves more : List StatusChange}

theorem trans
    (hFirst : Walk first moves last)
    (hSecond : Walk last more other) :
    Walk first (moves ++ more) other := by
  induction hSecond with
  | stay =>
      rw [List.append_nil]
      exact hFirst
  | change m _ hLawful ih =>
      rw [← List.append_assoc]
      exact .change m ih hLawful

theorem isLawful
    (hWalk : Walk first moves last) :
    ∀ m ∈ moves, m.IsLawful := by
  induction hWalk with
  | stay =>
      intro m hMem
      cases hMem
  | change m _ hLawful ih =>
      intro k hMem
      rcases List.mem_append.1 hMem with hEarlier | hLast
      · exact ih k hEarlier
      · rw [List.mem_singleton.1 hLast]
        exact hLawful

/- The last change leads to where the walk ends. -/
theorem after_eq
    (hWalk : Walk first moves last)
    {m : StatusChange}
    (hLast : moves.getLast? = some m) :
    m.after = last := by
  cases hWalk with
  | stay => cases hLast
  | change k =>
      rw [List.getLast?_concat, Option.some.injEq] at hLast
      rw [hLast]

theorem eq_of_no_moves
    (hWalk : Walk first [] last) :
    first = last := by
  generalize hMoves : ([] : List StatusChange) = moves
    at hWalk
  cases hWalk with
  | stay => rfl
  | change m => simp at hMoves

/- Every change begins where the one before has led. -/
theorem isChain
    (hWalk : Walk first moves last) :
    moves.IsChain fun m n => m.after = n.before := by
  induction hWalk with
  | stay => exact .nil
  | change m hWalk _ ih =>
      refine List.isChain_append.2
        ⟨ih, List.isChain_singleton m, ?_⟩
      intro k hLast n hHead
      cases hHead
      exact hWalk.after_eq hLast

end Walk

end Status

------------------------------------------------------------
-- The Newest of Many
------------------------------------------------------------

namespace Component

variable {α : Type}

/- Items that were forgotten earlier make no difference. -/
theorem newest_newest_append
    (limit : Nat)
    (items more : List α) :
    newest limit (newest limit items ++ more) =
      newest limit (items ++ more) := by
  unfold newest
  rw [← List.drop_append_of_le_length (by omega),
    List.drop_drop]
  congr 1
  simp only [List.length_drop, List.length_append]
  omega

/- What has come last is among the newest. -/
theorem newest_length_append
    (items more : List α) :
    newest more.length (items ++ more) = more := by
  unfold newest
  rw [List.length_append, Nat.add_sub_cancel,
    List.drop_left]

theorem newest_newest
    {few limit : Nat}
    (hFew : few ≤ limit)
    (items : List α) :
    newest few (newest limit items) = newest few items := by
  unfold newest
  rw [List.drop_drop]
  congr 1
  simp only [List.length_drop]
  omega

theorem getLast?_newest
    {limit : Nat}
    (hLimit : 0 < limit)
    (items : List α) :
    (newest limit items).getLast? = items.getLast? := by
  unfold newest
  rw [List.getLast?_drop]
  cases items with
  | nil => simp
  | cons x rest =>
      have hSome : ¬ (x :: rest).length ≤
          (x :: rest).length - limit := by
        rw [List.length_cons]
        omega
      rw [if_neg hSome]

end Component

------------------------------------------------------------
-- The Changes That Components Make
------------------------------------------------------------

namespace Component

variable {κ : Type}

/- A component as it is put into a tree. -/
def Fresh
    (c : Component κ) : Prop :=
  c = { new c.label c.name c.kind with
    policy := c.policy
    canPause := c.canPause }

/-
  A component came to be as it is by exactly these changes,
  one by one.
-/
inductive Made
    (first : Component κ) :
    List StatusChange → Component κ → Prop where
  | nothing : Made first [] first
  | record
      {moves : List StatusChange}
      {c : Component κ}
      (hMade : Made first moves c)
      (status : Status)
      (reason : String) :
      Made first (moves ++ [⟨c.status, status, reason⟩])
        (c.record status reason)
  | fail
      {moves : List StatusChange}
      {c : Component κ}
      (hMade : Made first moves c)
      (reason : String) :
      Made first (moves ++ [⟨c.status, .error, reason⟩])
        (c.fail reason)
  | clear
      {moves : List StatusChange}
      {c : Component κ}
      (hMade : Made first moves c) :
      Made first (moves ++ [⟨c.status, .stopped, "reset"⟩])
        c.clear

namespace Made

variable {first c d : Component κ}
variable {moves more : List StatusChange}

theorem trans
    (hFirst : first.Made moves c)
    (hSecond : c.Made more d) :
    first.Made (moves ++ more) d := by
  induction hSecond with
  | nothing =>
      rw [List.append_nil]
      exact hFirst
  | record _ status reason ih =>
      rw [← List.append_assoc]
      exact .record ih status reason
  | fail _ reason ih =>
      rw [← List.append_assoc]
      exact .fail ih reason
  | clear _ ih =>
      rw [← List.append_assoc]
      exact .clear ih

theorem limit_eq
    (hMade : first.Made moves c) :
    c.historyLimit = first.historyLimit := by
  induction hMade with
  | nothing => rfl
  | record _ _ _ ih => exact ih
  | fail _ _ ih => exact ih
  | clear _ ih => exact ih

theorem changeCount_eq
    (hMade : first.Made moves c) :
    c.changeCount = first.changeCount + moves.length := by
  induction hMade with
  | nothing => rfl
  | record _ _ _ ih | fail _ _ ih | clear _ ih =>
      rw [List.length_append, ← Nat.add_assoc, ← ih]
      rfl

/- The history goes on from what was remembered. -/
theorem history_eq
    {items : List StatusChange}
    (hMade : first.Made moves c)
    (hHistory :
      first.history = newest first.historyLimit items) :
    c.history = newest first.historyLimit (items ++ moves) := by
  induction hMade with
  | nothing =>
      rw [List.append_nil]
      exact hHistory
  | record hBefore _ _ ih | fail hBefore _ ih
  | clear hBefore ih =>
      rw [← List.append_assoc, ← newest_newest_append, ← ih,
        ← hBefore.limit_eq]
      rfl

/- A few changes are read off the history afterwards. -/
theorem changesSince_eq
    {items : List StatusChange}
    (hMade : first.Made moves c)
    (hHistory :
      first.history = newest first.historyLimit items)
    (hFew : moves.length ≤ first.historyLimit) :
    first.changesSince c = moves := by
  unfold changesSince
  rw [hMade.changeCount_eq, Nat.add_sub_cancel_left,
    hMade.history_eq hHistory, newest_newest hFew,
    newest_length_append]

end Made

/- The error of a component, given its last change. -/
def errorAfter
    (c : Component κ)
    (last : Option StatusChange) : Option String :=
  if c.status = .error then last.map (·.reason) else none

/-
  In a turn a component makes two changes at most.  They lead
  from where it stands to a settled status, and an error that
  is new is the reason of the last one.
-/
theorem Turn.exists_changes
    {c c' : Component κ}
    (hSettled : c.status ∈ Status.settled)
    {last : Option StatusChange}
    (hError : c.lastError = c.errorAfter last)
    (hTurn : c.Turn c') :
    ∃ moves, c.Made moves c' ∧ moves.length ≤ 2 ∧
      Status.Walk c.status moves c'.status ∧
      c'.status ∈ Status.settled ∧
      c'.lastError = c'.errorAfter (moves.getLast?.or last) := by
  cases hTurn with
  | rest =>
      exact ⟨[], .nothing, by simp, .stay, hSettled, hError⟩
  | @passed during after hPassage asked done =>
      have hNone : c.lastError = none := by
        rw [hError]
        exact if_neg hPassage.before_ne_error
      refine ⟨_, .record (.record .nothing during asked) after
        done, by simp, ?_, hPassage.after_settled, ?_⟩
      · exact .change ⟨during, after, done⟩
          (.change ⟨c.status, during, asked⟩ .stay
            hPassage.begins) hPassage.ends
      · exact hNone.trans (if_neg hPassage.after_ne_error).symm
  | @failed during after hPassage asked reason =>
      refine ⟨_, .fail (.record .nothing during asked) reason,
        by simp, ?_, ?_, ?_⟩
      · exact .change ⟨during, .error, reason⟩
          (.change ⟨c.status, during, asked⟩ .stay
            hPassage.begins) hPassage.breaks_off
      · simp [Status.settled, fail, record]
      · simp [errorAfter, fail, record]
  | cleared hStatus =>
      have hLawful :
          (c.status, .stopped) ∈ Status.lawfulChanges := by
        rw [hStatus]
        decide
      refine ⟨_, .clear .nothing, by simp, ?_, ?_, rfl⟩
      · exact .change ⟨c.status, .stopped, "reset"⟩ .stay
          hLawful
      · simp [Status.settled, clear, record]

------------------------------------------------------------
-- Components That Can Account for Their Changes
------------------------------------------------------------

/-
  All that is kept about a component, given every change it
  has made since it was put into the tree.
-/
structure Recounts
    (c : Component κ)
    (moves : List StatusChange) : Prop where
  limit : c.historyLimit = defaultHistoryLimit
  count : c.changeCount = moves.length
  history : c.history = newest c.historyLimit moves
  settled : c.status ∈ Status.settled
  walk : Status.Walk .stopped moves c.status
  error : c.lastError = c.errorAfter moves.getLast?

theorem Fresh.recounts
    {c : Component κ}
    (hFresh : c.Fresh) :
    c.Recounts [] := by
  rw [hFresh]
  exact ⟨rfl, rfl, rfl, .head _, .stay, rfl⟩

/- A turn adds what it changed, and it can be read off. -/
theorem Recounts.turn
    {c c' : Component κ}
    {moves : List StatusChange}
    (hRecounts : c.Recounts moves)
    (hTurn : c.Turn c') :
    c.Made (c.changesSince c') c' ∧
      c'.Recounts (moves ++ c.changesSince c') := by
  rcases hTurn.exists_changes hRecounts.settled
      hRecounts.error with
    ⟨new, hMade, hFew, hWalk, hSettled, hError⟩
  have hRoom : new.length ≤ c.historyLimit := by
    rw [hRecounts.limit]
    exact hFew.trans (by decide)
  rw [hMade.changesSince_eq hRecounts.history hRoom]
  refine ⟨hMade, ?_⟩
  constructor
  case limit => exact hMade.limit_eq.trans hRecounts.limit
  case count =>
    rw [hMade.changeCount_eq, hRecounts.count,
      List.length_append]
  case history =>
    rw [hMade.limit_eq]
    exact hMade.history_eq hRecounts.history
  case settled => exact hSettled
  case walk => exact hRecounts.walk.trans hWalk
  case error =>
    rw [List.getLast?_append]
    exact hError

/-
  What a component shows between calls, given all changes it
  has ever made.
-/
structure Accounted
    (c : Component κ)
    (moves : List StatusChange) : Prop where
  settled : c.status ∈ Status.settled
  error_iff : c.lastError.isSome = true ↔ c.status = .error
  error_reason : ∀ e, c.lastError = some e →
    ∃ m, c.history.getLast? = some m ∧ m.reason = e
  count : c.changeCount = moves.length
  newest_moves : c.history = moves.drop (moves.length - 64)
  length : c.history.length = min 64 moves.length
  chained : c.history.IsChain fun m n => m.after = n.before
  current : ∀ m, c.history.getLast? = some m →
    m.after = c.status
  unmoved : moves = [] → c.status = .stopped
  lawful : ∀ m ∈ moves, m.IsLawful

theorem Recounts.accounted
    {c : Component κ}
    {moves : List StatusChange}
    (hRecounts : c.Recounts moves) :
    c.Accounted moves := by
  have hHistory :
      c.history = newest defaultHistoryLimit moves := by
    rw [hRecounts.history, hRecounts.limit]
  have hLast : c.history.getLast? = moves.getLast? := by
    rw [hHistory]
    exact getLast?_newest (by decide) moves
  constructor
  case settled => exact hRecounts.settled
  case error_iff =>
    rw [hRecounts.error]
    unfold errorAfter
    by_cases hStatus : c.status = .error
    · have hMoves : moves ≠ [] := by
        rintro rfl
        rw [← hRecounts.walk.eq_of_no_moves] at hStatus
        cases hStatus
      rw [if_pos hStatus, Option.isSome_map,
        List.getLast?_eq_some_getLast hMoves]
      simp [hStatus]
    · simp [hStatus]
  case error_reason =>
    intro e hError
    rw [hRecounts.error] at hError
    unfold errorAfter at hError
    by_cases hStatus : c.status = .error
    · rw [if_pos hStatus, Option.map_eq_some_iff] at hError
      rw [hLast]
      exact hError
    · rw [if_neg hStatus] at hError
      cases hError
  case count => exact hRecounts.count
  case newest_moves => exact hHistory
  case length =>
    rw [hHistory]
    unfold newest
    rw [List.length_drop]
    unfold defaultHistoryLimit
    omega
  case chained =>
    rw [hHistory]
    exact hRecounts.walk.isChain.drop _
  case current =>
    intro m hm
    rw [hLast] at hm
    exact hRecounts.walk.after_eq hm
  case unmoved =>
    rintro rfl
    exact hRecounts.walk.eq_of_no_moves.symm
  case lawful => exact hRecounts.walk.isLawful

/- A component that is terminated makes no turn. -/
theorem Turn.eq_of_terminated
    {c c' : Component κ}
    (hTurn : c.Turn c')
    (hStatus : c.status = .terminated) :
    c' = c := by
  cases hTurn with
  | rest => rfl
  | passed hPassage | failed hPassage =>
      rw [hStatus] at hPassage
      cases hPassage
  | cleared hError =>
      rw [hStatus] at hError
      cases hError

end Component

------------------------------------------------------------
-- Trees in Use
------------------------------------------------------------

namespace Tree

variable {κ σ : Type}

/- A call lets every component of the tree make a turn. -/
theorem each_turn_step
    (t : Tree κ)
    (s : σ)
    (call : LifecycleCall κ σ) :
    Each Component.Turn t (t.step s call).1 := by
  unfold step callAt?
  cases hPart : t.part? call.address with
  | none => exact Each.refl (fun _ => .rest) t
  | some u =>
      exact Each.replace (fun _ => .rest) hPart
        (each_turn_call call.hooks call.action u s)

theorem run_append
    (t : Tree κ)
    (s : σ)
    (calls more : List (LifecycleCall κ σ)) :
    t.run s (calls ++ more) =
      (t.run s calls).1.run (t.run s calls).2 more := by
  induction calls generalizing t s with
  | nil => rfl
  | cons call rest ih => exact ih _ _

theorem exists_component?_before
    {t : Tree κ}
    {s : σ}
    {calls : List (LifecycleCall κ σ)}
    {p : Address}
    {c : Component κ}
    (hAfter : (t.run s calls).1.component? p = some c) :
    ∃ first, t.component? p = some first := by
  induction calls generalizing t s with
  | nil => exact ⟨c, hAfter⟩
  | cons call rest ih =>
      rcases ih hAfter with ⟨d, hNext⟩
      rcases (each_turn_step t s call).exists_before hNext
        with ⟨first, hFirst, -⟩
      exact ⟨first, hFirst⟩

/-
  A component that can account for its changes still can
  after any calls.
-/
theorem exists_recounts_run
    {t : Tree κ}
    {p : Address}
    {c : Component κ}
    (hBefore : t.component? p = some c)
    {moves : List StatusChange}
    (hRecounts : c.Recounts moves)
    (s : σ)
    (calls : List (LifecycleCall κ σ)) :
    ∃ d, (t.run s calls).1.component? p = some d ∧
      c.Made (t.changesAt p s calls) d ∧
      d.Recounts (moves ++ t.changesAt p s calls) := by
  induction calls generalizing t s c moves with
  | nil =>
      refine ⟨c, hBefore, .nothing, ?_⟩
      rw [changesAt, List.append_nil]
      exact hRecounts
  | cons call rest ih =>
      rcases (each_turn_step t s call).exists_after hBefore
        with ⟨c', hAfter, hTurn⟩
      rcases hRecounts.turn hTurn with ⟨hMade, hNow⟩
      rcases ih hAfter hNow (t.step s call).2 with
        ⟨d, hLast, hLater, hAll⟩
      have hChanges : t.changesAt p s (call :: rest) =
          c.changesSince c' ++ (t.step s call).1.changesAt p
            (t.step s call).2 rest := by
        simp only [changesAt, changesOf, hBefore, hAfter]
      rw [hChanges, ← List.append_assoc]
      exact ⟨d, hLast, hMade.trans hLater, hAll⟩

/- A component that is terminated stays as it is. -/
theorem component?_run_of_terminated
    {t : Tree κ}
    {p : Address}
    {c : Component κ}
    (hBefore : t.component? p = some c)
    (hStatus : c.status = .terminated)
    (s : σ)
    (calls : List (LifecycleCall κ σ)) :
    (t.run s calls).1.component? p = some c := by
  induction calls generalizing t s with
  | nil => exact hBefore
  | cons call rest ih =>
      rcases (each_turn_step t s call).exists_after hBefore
        with ⟨c', hAfter, hTurn⟩
      rw [hTurn.eq_of_terminated hStatus] at hAfter
      exact ih hAfter _

/-
  After any calls of the components of a tree that was put
  together afresh, each of them can account for all changes
  it has made, as the newest of which it keeps its history;
  and one that is terminated stays so whatever is called.
-/
theorem remembers_newest_changes
    {t : Tree κ}
    (hFresh : t.All Component.Fresh)
    (s : σ)
    (calls : List (LifecycleCall κ σ))
    {p : Address}
    {c : Component κ}
    (hComponent : (t.run s calls).1.component? p = some c) :
    c.Accounted (t.changesAt p s calls) ∧
      (∀ first, t.component? p = some first →
        first.Made (t.changesAt p s calls) c) ∧
      (c.status = .terminated → ∀ more,
        (t.run s (calls ++ more)).1.component? p =
          some c) := by
  rcases exists_component?_before hComponent with
    ⟨first, hFirst⟩
  have hFirstRecounts := (hFresh p first hFirst).recounts
  rcases exists_recounts_run hFirst hFirstRecounts s calls with
    ⟨d, hLast, hMade, hRecounts⟩
  rw [hComponent, Option.some.injEq] at hLast
  subst hLast
  rw [List.nil_append] at hRecounts
  refine ⟨hRecounts.accounted, ?_, ?_⟩
  · intro other hOther
    rw [hFirst, Option.some.injEq] at hOther
    subst hOther
    exact hMade
  · intro hStatus more
    rw [run_append]
    exact component?_run_of_terminated hComponent hStatus _ _

/- A pipeline without hooks worth mentioning. -/
def lonePipeline : Tree Unit :=
  leaf (.new () "pipeline" .inboundPipeline)

/- A start that fails, and the reset after it. -/
def failedStart : List (LifecycleCall Unit Unit) :=
  [⟨[], .start, fun _ _ s => (.error (.other "full"), s)⟩,
    ⟨[], .reset, fun _ _ s => (.ok (), s)⟩]

/- After many failed starts the first changes are forgotten. -/
theorem remembers_newest_changes_failed_starts :
    ∃ c : Component Unit,
      (lonePipeline.run ()
        (List.replicate 22 failedStart).flatten).1.component?
          [] = some c ∧
      c.changeCount = 66 ∧ c.history.length = 64 := by
  have hFresh : lonePipeline.All Component.Fresh := by
    refine all_node_iff.2 ⟨rfl, ?_⟩
    intro t hMem
    cases hMem
  have hCount :
      ((lonePipeline.run ()
        (List.replicate 22 failedStart).flatten).1.component?
          []).map (·.changeCount) = some 66 := by
    decide +kernel
  rcases Option.map_eq_some_iff.1 hCount with ⟨c, hc, hMany⟩
  have hAccounted :=
    (remembers_newest_changes hFresh () _ hc).1
  refine ⟨c, hc, hMany, ?_⟩
  rw [hAccounted.length, ← hAccounted.count, hMany]
  rfl

end Tree

end DeviceHub
