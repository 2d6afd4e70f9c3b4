/-
  Steps made one after the other.

  A step takes an input and a state, shows some outputs, and
  comes to a new state.  A run makes one step for each input
  and shows the outputs of all of them, in order.  What each
  step keeps of the inputs taken, the outputs shown and the
  state, a whole run keeps.

  Key definitions include:
    * `runAll`

  Main statements:
    * `runAll_append`
    * `runAll_induct`
    * `runAll_keeps`
    * `map_runAll`
    * `concat_eq_split_iff`
-/

namespace DeviceHub

variable {σ ι ω : Type}

/- Take inputs one after the other; all outputs, in order. -/
def runAll
    (step : σ → ι → List ω × σ)
    (s : σ) : List ι → List ω × σ
  | [] => ([], s)
  | i :: rest =>
      let first := step s i
      let later := runAll step first.2 rest
      (first.1 ++ later.1, later.2)

variable {step : σ → ι → List ω × σ}

/- The first step, and then the others. -/
theorem runAll_cons
    (s : σ)
    (i : ι)
    (rest : List ι) :
    runAll step s (i :: rest) =
      ((step s i).1 ++ (runAll step (step s i).2 rest).1,
        (runAll step (step s i).2 rest).2) := rfl

/- Inputs that follow others. -/
theorem runAll_append
    (s : σ)
    (first second : List ι) :
    runAll step s (first ++ second) =
      ((runAll step s first).1 ++
          (runAll step (runAll step s first).2 second).1,
        (runAll step (runAll step s first).2 second).2) := by
  induction first generalizing s with
  | nil => rfl
  | cons i rest ih => simp [runAll_cons, ih]

/-
  Every run has a property of what was taken, what was shown
  and what was come to, if the beginning has it and no step
  loses it.
-/
theorem runAll_induct
    {P : List ι → List ω → σ → Prop}
    (hStep : ∀ taken shown s i, P taken shown s →
      P (taken ++ [i]) (shown ++ (step s i).1) (step s i).2)
    {s : σ}
    (hBegin : P [] [] s)
    (inputs : List ι) :
    P inputs (runAll step s inputs).1
      (runAll step s inputs).2 := by
  -- The induction carries what was taken and shown before.
  suffices hAll : ∀ taken shown s, P taken shown s →
      P (taken ++ inputs) (shown ++ (runAll step s inputs).1)
        (runAll step s inputs).2 from
    hAll [] [] s hBegin
  induction inputs with
  | nil =>
      intro taken shown s hBefore
      simpa [runAll] using hBefore
  | cons i rest ih =>
      intro taken shown s hBefore
      have hLater := ih _ _ _ (hStep taken shown s i hBefore)
      rw [List.append_assoc, List.append_assoc] at hLater
      exact hLater

/- The same for a property of the state alone. -/
theorem runAll_keeps
    {P : σ → Prop}
    (hStep : ∀ s i, P s → P (step s i).2)
    {s : σ}
    (hBegin : P s)
    (inputs : List ι) :
    P (runAll step s inputs).2 :=
  runAll_induct (P := fun _ _ => P)
    (fun _ _ s i => hStep s i) hBegin inputs

/-
  Where the output of a step tells its input, the outputs of
  a run tell its inputs, in order.
-/
theorem map_runAll
    {f : ω → ι}
    (hStep : ∀ s i, (step s i).1.map f = [i])
    (s : σ)
    (inputs : List ι) :
    (runAll step s inputs).1.map f = inputs := by
  induction inputs generalizing s with
  | nil => rfl
  | cons i rest ih =>
      rw [runAll_cons, List.map_append, hStep, ih]
      rfl

/-
  Where an output stands among those shown and one more: it
  is the last, or it stands among those shown.
-/
theorem concat_eq_split_iff
    {shown before after : List ω}
    {x y : ω} :
    shown ++ [x] = before ++ y :: after ↔
      (shown = before ∧ x = y ∧ after = []) ∨
      ∃ rest, shown = before ++ y :: rest ∧
        after = rest ++ [x] := by
  constructor
  · intro hSplit
    rcases List.eq_nil_or_concat after with
      rfl | ⟨rest, last, rfl⟩
    · rcases List.append_inj' hSplit rfl with ⟨hFirst, hLast⟩
      exact .inl ⟨hFirst, List.singleton_inj.1 hLast, rfl⟩
    · have hLonger : shown ++ [x] =
          (before ++ y :: rest) ++ [last] := by
        simpa using hSplit
      rcases List.append_inj' hLonger rfl with
        ⟨hFirst, hLast⟩
      rw [List.singleton_inj.1 hLast]
      exact .inr ⟨rest, hFirst, by simp⟩
  · rintro (⟨rfl, rfl, rfl⟩ | ⟨rest, rfl, rfl⟩)
    · rfl
    · simp

end DeviceHub
