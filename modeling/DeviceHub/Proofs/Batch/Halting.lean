import DeviceHub.Proofs.Batch.Session

/-
  What a batch engine still begins while it is not started.

  A run looks at the status before it rests, and not again
  when its rest is over.  So the elements that runs rest
  before when the engine is paused or stopped are begun all
  the same, and no others are until it is started again.

  Key definitions include:
    * `BatchSession.Halted`

  Main statements:
    * `BatchSession.Sound.begins_iff_resting`
    * `BatchSession.Reachable.no_rest`
    * `BatchSession.begins_nothing_iff_no_rest`
-/

namespace DeviceHub

namespace BatchSession

variable {κ : Type}

------------------------------------------------------------
-- While the Engine Is Not Started
------------------------------------------------------------

/- None of the moves finds the engine started. -/
def Halted :
    BatchSession κ → List (BatchMove κ) → Prop
  | _, [] => True
  | s, m :: rest =>
      s.status ≠ .started ∧ (s.step m).2.Halted rest

/- A run rests before an element. -/
def Rests
    (s : BatchSession κ)
    (n : Nat)
    (id : String)
    (x : BatchElement) : Prop :=
  ∃ left, s.engine.run? n = some ⟨n, id, .resting x left⟩

/- Without a started engine no run goes to rest. -/
theorem Sound.rests_of_step
    {s : BatchSession κ}
    (hSound : s.Sound)
    (hStatus : s.status ≠ .started)
    {m : BatchMove κ}
    {n : Nat}
    {id : String}
    {x : BatchElement}
    (hRests : (s.step m).2.Rests n id x) :
    s.Rests n id x := by
  rcases hRests with ⟨left, hRun⟩
  rcases (hSound.change_step m).rests n id x left hRun with
    hBefore | ⟨hStarted, -⟩
  · exact ⟨left, hBefore⟩
  · exact absurd hStarted hStatus

/- What a halted engine begins was rested before. -/
theorem Sound.rests_of_began
    {s : BatchSession κ}
    (hSound : s.Sound)
    {moves : List (BatchMove κ)}
    (hHalted : s.Halted moves)
    {n : Nat}
    {id : String}
    {x : BatchElement}
    {status : Status}
    (hBegan :
      BatchNote.began n id x status ∈ (s.run moves).1) :
    s.Rests n id x := by
  induction moves generalizing s with
  | nil => cases hBegan
  | cons m rest ih =>
      rcases hHalted with ⟨hStatus, hRest⟩
      have hChange := hSound.change_step m
      rw [BatchSession.run, runAll_cons] at hBegan
      rcases List.mem_append.1 hBegan with hNow | hLater
      · have hMeans := hChange.means _ (by
          simpa using hNow)
        rcases hMeans with ⟨rfl, hStarted | hRests⟩
        · exact absurd hStarted hStatus
        · exact hRests
      · exact hSound.rests_of_step hStatus
          (ih hChange.sound hRest hLater)

/-
  Exactly the elements that runs rest before can be begun
  while the engine is not started.
-/
theorem Sound.begins_iff_resting
    {s : BatchSession κ}
    (hSound : s.Sound)
    (hStatus : s.status ≠ .started)
    (n : Nat)
    (id : String)
    (x : BatchElement) :
    (∃ moves status, s.Halted moves ∧
      BatchNote.began n id x status ∈ (s.run moves).1) ↔
      s.Rests n id x := by
  constructor
  · rintro ⟨moves, status, hHalted, hBegan⟩
    exact hSound.rests_of_began hHalted hBegan
  · rintro ⟨left, hRun⟩
    refine ⟨[.wake n], s.status, ⟨hStatus, trivial⟩, ?_⟩
    simp [BatchSession.run, runAll, step, wake, hRun]

------------------------------------------------------------
-- Engines Without Rests
------------------------------------------------------------

/- Where rests take no time, no run ever rests. -/
theorem Reachable.no_rest
    {s : BatchSession κ}
    (hReach : s.Reachable)
    (hThrottle : s.engine.throttle = 0)
    (n : Nat)
    (id : String)
    (x : BatchElement) :
    ¬ s.Rests n id x := by
  rcases hReach with ⟨throttle, component, moves, rfl⟩
  refine (runAll_keeps
    (P := fun s : BatchSession κ => s.Sound ∧
      (s.engine.throttle = 0 → ∀ n id x, ¬ s.Rests n id x))
    ?_ ⟨⟨.new throttle, fun _ _ => rfl⟩, ?_⟩ moves
    ).2 hThrottle n id x
  · rintro s m ⟨hSound, hNobody⟩
    have hChange := hSound.change_step m
    refine ⟨hChange.sound, fun hThrottle => ?_⟩
    -- The length of the rests does not change.
    rw [hChange.throttle] at hThrottle
    rintro n id x ⟨left, hRun⟩
    rcases hChange.rests n id x left hRun with
      hBefore | ⟨-, hRestful⟩
    · exact hNobody hThrottle n id x ⟨left, hBefore⟩
    · exact hRestful hThrottle
  · rintro - n id x ⟨left, hRun⟩
    cases hRun

------------------------------------------------------------
-- Pausing and Stopping
------------------------------------------------------------

/-
  From a state in which the engine is not started: it begins
  no element before it is started again if and only if no
  run is resting.  Runs never rest where rests take no time.
-/
theorem begins_nothing_iff_no_rest
    {s : BatchSession κ}
    (hReach : s.Reachable)
    (hStatus : s.status ≠ .started) :
    ((∀ moves : List (BatchMove κ), s.Halted moves →
      ∀ n id x status,
        BatchNote.began n id x status ∉ (s.run moves).1) ↔
      ∀ n id x, ¬ s.Rests n id x) ∧
    (s.engine.throttle = 0 →
      ∀ n id x, ¬ s.Rests n id x) := by
  refine ⟨⟨?_, ?_⟩, hReach.no_rest⟩
  · intro hNothing n id x hRests
    rcases (hReach.sound.begins_iff_resting hStatus n id x).2
      hRests with ⟨moves, status, hHalted, hBegan⟩
    exact hNothing moves hHalted n id x status hBegan
  · intro hNobody moves hHalted n id x status hBegan
    exact hNobody n id x
      (hReach.sound.rests_of_began hHalted hBegan)

/-
  The first device is rebooted.  The engine is paused before
  the run comes to its rest, so the run waits, and nothing
  begins while the engine is not started again.
-/
theorem begins_nothing_iff_no_rest_paused :
    ∃ s : BatchSession Unit, s.Reachable ∧
      s.status = .paused ∧
      s.engine.run? 1 =
        some ⟨1, "r", .gate [.new 1 "b"] false⟩ ∧
      ∀ moves : List (BatchMove Unit), s.Halted moves →
        ∀ n id x status,
          BatchNote.began n id x status ∉
            (s.run moves).1 := by
  have hWaiting : ∃ s : BatchSession Unit, s.Reachable ∧
      s.status = .paused ∧ s.engine.runs =
        [⟨1, "r", .gate [.new 1 "b"] false⟩] :=
    ⟨_, (reachable_rebootSession 5).run
      [.resolve 0 (.ok []) default, .process "r" default,
        .turn 1 default, .settle 1 default (.ok .empty),
        .control plainHooks .pause, .turn 1 default],
      rfl, rfl⟩
  rcases hWaiting with ⟨s, hReach, hStatus, hRuns⟩
  have hExact := (begins_nothing_iff_no_rest hReach (by
    rw [hStatus]
    decide)).1
  refine ⟨s, hReach, hStatus, ?_, hExact.2 ?_⟩
  · simp [BatchEngine.run?, hRuns]
  · rintro n id x ⟨left, hRun⟩
    have hMem := List.mem_of_find?_eq_some hRun
    rw [hRuns] at hMem
    cases List.mem_singleton.1 hMem

/-
  The first device is rebooted, and the run rests before the
  second.  The engine is paused; it answers that it is.  Then
  the rest is over, and the second action begins.
-/
theorem begins_after_pause :
    ∃ notes,
      ((rebootSession 5).run
        [.resolve 0 (.ok []) default, .process "r" default,
          .turn 1 default, .settle 1 default (.ok .empty),
          .turn 1 default, .control plainHooks .pause,
          .wake 1]).1 =
        notes ++
          [.controlled .pause (.ok .paused),
            .began 1 "r" (.new 1 "b") .paused] :=
  ⟨[.created rebootOperation,
      .began 1 "r" (.new 0 "a") .started,
      .ended 1 "r" 0 default (.ok .empty)], rfl⟩

end BatchSession

end DeviceHub
