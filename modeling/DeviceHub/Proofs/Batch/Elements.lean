import DeviceHub.Proofs.Batch.Session

/-
  The action on an element of a batch operation, from the
  creation of the operation to its removal.

  Whatever calls come in between, and in whatever order they
  take their steps, the action begins at most once.  Its
  result decides what becomes of the element, and from then
  on the element stays as it is.

  Key definitions include:
    * `ElementStory`
    * `BatchSession.Tells`

  Main statements:
    * `BatchSession.Tells.run`
    * `BatchSession.Tells.settled`
    * `BatchSession.element_settles_once`
-/

------------------------------------------------------------
-- Stories of Elements
------------------------------------------------------------

namespace DeviceHub

/-
  What can be told of the action on an element that was made
  as `x`, and what the element is by then.
-/
inductive ElementStory
    (id : String)
    (x : BatchElement) :
    BatchElement → List BatchNote → Prop where
  | untouched : ElementStory id x x []
  | begun
      (ticket : Nat)
      (status : Status) :
      ElementStory id x x [.began ticket id x status]
  | complete
      (ticket : Nat)
      (status : Status)
      (now : Instant)
      (result : Except String (Dict String)) :
      ElementStory id x (x.settle now result)
        [.began ticket id x status,
          .ended ticket id x.index now result]

namespace ElementStory

variable {id : String}
variable {x y z : BatchElement}
variable {told more : List BatchNote}

/- Once an element is processed, its story is at its end. -/
theorem eq_of_isProcessed
    (hNew : x.isProcessed = false)
    (hStory : ElementStory id x y told)
    (hProcessed : y.isProcessed = true)
    (hLonger : ElementStory id x z (told ++ more)) :
    z = y ∧ more = [] := by
  cases hStory with
  | untouched =>
      rw [hNew] at hProcessed
      cases hProcessed
  | begun ticket status =>
      rw [hNew] at hProcessed
      cases hProcessed
  | complete ticket status now result =>
      generalize hTold : [BatchNote.began ticket id x status,
        .ended ticket id x.index now result] ++ more =
          whole at hLonger
      cases hLonger with
      | untouched => cases hTold
      | begun ticket' status' => cases hTold
      | complete ticket' status' now' result' =>
          cases hTold
          exact ⟨rfl, rfl⟩

end ElementStory

end DeviceHub

------------------------------------------------------------
-- Stories and States
------------------------------------------------------------

namespace DeviceHub

namespace BatchSession

variable {κ : Type}

/- The beginning of an action is told at its own place. -/
theorem story_began
    (n : Nat)
    (id : String)
    (x : BatchElement)
    (status : Status)
    (i : Nat) :
    BatchNote.story id i [.began n id x status] =
      if x.index = i then [.began n id x status]
      else [] := by
  by_cases hPlace : x.index = i <;>
    simp [BatchNote.story, BatchNote.concerns, hPlace]

/- So is the end of an action. -/
theorem story_ended
    (n : Nat)
    (id : String)
    (place : Nat)
    (now : Instant)
    (result : Except String (Dict String))
    (i : Nat) :
    BatchNote.story id i [.ended n id place now result] =
      if place = i then [.ended n id place now result]
      else [] := by
  by_cases hPlace : place = i <;>
    simp [BatchNote.story, BatchNote.concerns, hPlace]

/-
  What is told of an element `y`, made as `x` at a place,
  fits the session: its action runs if and only if that was
  the last thing told.
-/
structure Tells
    (s : BatchSession κ)
    (id : String)
    (i : Nat)
    (x y : BatchElement)
    (told : List BatchNote) : Prop where
  story : ElementStory id x y told
  busy : ∀ n, (∃ z, s.Acts n id z ∧ z.index = i) ↔
    ∃ status, told = [.began n id x status]

namespace Tells

variable {s s' : BatchSession κ}
variable {id : String}
variable {i : Nat}
variable {x y : BatchElement}
variable {told : List BatchNote}

/- Where no action runs, none has begun without an end. -/
theorem not_begun
    (hTells : s.Tells id i x y told)
    (hIdle : ∀ m z, ¬ s.Acts m id z)
    (n : Nat)
    (status : Status) :
    told ≠ [.began n id x status] := by
  intro hTold
  rcases (hTells.busy n).2 ⟨status, hTold⟩ with ⟨z, hActs, -⟩
  exact hIdle n z hActs

/- An element whose action begins was untouched. -/
theorem began
    (hTells : s.Tells id i x y told)
    (hIndex : x.index = i)
    (hUnprocessed : y.isProcessed = false)
    (hIdle : ∀ m z, ¬ s.Acts m id z)
    {n : Nat}
    (status : Status)
    (hAfter : ∀ m z, s'.Acts m id z ↔ m = n ∧ z = y) :
    s'.Tells id i x y
      (told ++ [.began n id y status]) := by
  have hNotBegun := hTells.not_begun hIdle
  cases hTells.story with
  | begun m status' => exact absurd rfl (hNotBegun m status')
  | complete m status' now result =>
      rw [BatchElement.isProcessed_settle] at hUnprocessed
      cases hUnprocessed
  | untouched =>
      refine ⟨.begun n status, ?_⟩
      intro m
      constructor
      · rintro ⟨z, hActs, -⟩
        rcases (hAfter m z).1 hActs with ⟨rfl, -⟩
        exact ⟨status, rfl⟩
      · rintro ⟨status', hTold⟩
        cases hTold
        exact ⟨x, (hAfter n x).2 ⟨rfl, rfl⟩, hIndex⟩

/- An element whose action ends had been begun. -/
theorem ended
    (hTells : s.Tells id i x y told)
    (hIndex : x.index = i)
    {n : Nat}
    {z : BatchElement}
    (hActs : s.Acts n id z)
    (hPlace : z.index = i)
    (now : Instant)
    (result : Except String (Dict String))
    (hAfter : ∀ m w, ¬ s'.Acts m id w) :
    s'.Tells id i x (y.settle now result)
      (told ++ [.ended n id z.index now result]) := by
  rcases (hTells.busy n).1 ⟨z, hActs, hPlace⟩ with
    ⟨status, rfl⟩
  have hStory := hTells.story
  generalize hTold : [BatchNote.began n id x status] = told
    at hStory
  cases hStory with
  | untouched => cases hTold
  | complete m status' now' result' => cases hTold
  | begun m status' =>
      cases hTold
      rw [hPlace, ← hIndex]
      refine ⟨.complete n status now result, ?_⟩
      intro m
      constructor
      · rintro ⟨w, hActs', -⟩
        exact absurd hActs' (hAfter m w)
      · rintro ⟨status', hTold⟩
        cases hTold

/- What happens elsewhere changes nothing here. -/
theorem other
    (hTells : s.Tells id i x y told)
    (hActs : ∀ m, (∃ z, s'.Acts m id z ∧ z.index = i) ↔
      ∃ z, s.Acts m id z ∧ z.index = i) :
    s'.Tells id i x y told where
  story := hTells.story
  busy := fun n => (hActs n).trans (hTells.busy n)

/- A move goes on with the story, if at all, as it can. -/
theorem step
    (hSound : s.Sound)
    {o : BatchOperation}
    (hOperation : s.get? id = some o)
    (hElement : o.elements[i]? = some y)
    (hIndex : x.index = i)
    (hTells : s.Tells id i x y told)
    {note : Option BatchNote}
    (hEffect : Effect s s' id o note) :
    ∃ o', s'.get? id = some o' ∧
      ∃ y', o'.elements[i]? = some y' ∧
        s'.Tells id i x y'
          (told ++ BatchNote.story id i note.toList) := by
  have hOrderly := (hSound.orderly hOperation).2
  cases hEffect with
  | quiet o' hKept hElements hActs hNote =>
      have hSilent :
          BatchNote.story id i note.toList = [] := by
        refine List.filter_eq_nil_iff.2 ?_
        intro b hb
        rw [hNote b (by simpa using hb) i]
        simp
      rw [hSilent, List.append_nil]
      refine ⟨o', hKept, y, hElements ▸ hElement,
        hTells.other ?_⟩
      intro m
      simp only [hActs]
  | @began n z left status hKept hRemaining hBefore hAfter =>
      refine ⟨o, hKept, y, hElement, ?_⟩
      by_cases hPlace : z.index = i
      · have hNext := hOrderly.getElem?_index hRemaining
        rw [hPlace, hElement, Option.some.injEq] at hNext
        subst hNext
        have hUnprocessed : y.isProcessed = false := by
          refine BatchOperation.isProcessed_of_mem_remaining
            (o := o) ?_
          rw [hRemaining]
          exact List.mem_cons_self
        rw [Option.toList_some, story_began, if_pos hPlace]
        exact hTells.began hIndex hUnprocessed hBefore
          status hAfter
      · rw [Option.toList_some, story_began, if_neg hPlace,
          List.append_nil]
        refine hTells.other ?_
        intro m
        constructor
        · rintro ⟨w, hActs, hIndex'⟩
          rcases (hAfter m w).1 hActs with ⟨-, rfl⟩
          exact absurd hIndex' hPlace
        · rintro ⟨w, hActs, -⟩
          exact absurd hActs (hBefore m w)
  | @ended n z left now result hKept hRemaining hBefore
      hAfter =>
      have hSettled : (o.settle z.index now result
          ).elements[i]? = some
            (if z.index = i then y.settle now result
              else y) := by
        simp only [BatchOperation.settle,
          List.getElem?_modify, hElement]
        split <;> rfl
      refine ⟨_, hKept, _, hSettled, ?_⟩
      by_cases hPlace : z.index = i
      · rw [Option.toList_some, story_ended, if_pos hPlace,
          if_pos hPlace]
        exact hTells.ended hIndex hBefore hPlace now result
          hAfter
      · rw [Option.toList_some, story_ended, if_neg hPlace,
          if_neg hPlace, List.append_nil]
        refine hTells.other ?_
        intro m
        constructor
        · rintro ⟨w, hActs, -⟩
          exact absurd hActs (hAfter m w)
        · rintro ⟨w, hActs, hIndex'⟩
          rcases hSound.remaining_of_acts hOperation hActs
            with ⟨rest, hRest⟩
          rw [hRemaining] at hRest
          cases hRest
          exact absurd hIndex' hPlace

/- Any moves go on with the story until the removal. -/
theorem run
    (hSound : s.Sound)
    {o : BatchOperation}
    (hOperation : s.get? id = some o)
    (hElement : o.elements[i]? = some y)
    (hIndex : x.index = i)
    (hTells : s.Tells id i x y told)
    (moves : List (BatchMove κ))
    (hKept : ∀ b ∈ (s.run moves).1, b.removes id = false) :
    ∃ o', (s.run moves).2.get? id = some o' ∧
      ∃ y', o'.elements[i]? = some y' ∧
        (s.run moves).2.Tells id i x y'
          (told ++ BatchNote.story id i (s.run moves).1) := by
  have hBegin : s.Tells id i x y
      (told ++ BatchNote.story id i []) := by
    rw [BatchNote.story, List.filter_nil, List.append_nil]
    exact hTells
  refine hSound.keeps_run
    (P := fun notes (s : BatchSession κ) p =>
      ∃ y, p.elements[i]? = some y ∧ s.Tells id i x y
        (told ++ BatchNote.story id i notes))
    ?_ hOperation ⟨y, hElement, hBegin⟩ moves hKept
  rintro notes s s' p note hSound hHere
    ⟨z, hPlace, hBefore⟩ hEffect
  rw [BatchNote.story, List.filter_append,
    ← List.append_assoc]
  exact hBefore.step hSound hHere hPlace hIndex hEffect

/-
  The end of an action is told with its result, and the
  result decides what becomes of the element.
-/
theorem settled
    (hSound : s.Sound)
    {o : BatchOperation}
    (hOperation : s.get? id = some o)
    (hElement : o.elements[i]? = some y)
    (hIndex : x.index = i)
    (hTells : s.Tells id i x y told)
    {n : Nat}
    {z : BatchElement}
    (hActs : s.Acts n id z)
    (hPlace : z.index = i)
    (now : Instant)
    (result : Except String (Dict String)) :
    let r := s.step (.settle n now result)
    r.1 = some (.ended n id i now result) ∧
      ∃ p, r.2.get? id = some p ∧
        p.elements[i]? = some (x.settle now result) := by
  intro r
  have hNote : r.1 = some (.ended n id i now result) := by
    rcases hActs with ⟨left, hRun⟩
    simp [r, BatchSession.step, settle, hRun, hPlace]
  refine ⟨hNote, ?_⟩
  rcases (hTells.busy n).1 ⟨z, hActs, hPlace⟩ with
    ⟨status, rfl⟩
  have hEffect := (hSound.change_step (.settle n now result)
    ).effect id o hOperation fun b hb => by
      rw [hNote] at hb
      cases hb
      rfl
  rcases hTells.step hSound hOperation hElement hIndex hEffect
    with ⟨p, hOperation', w, hElement', hTells'⟩
  have hStory := hTells'.story
  rw [hNote, Option.toList_some, story_ended, if_pos rfl]
    at hStory
  cases hStory with
  | complete m status' now' result' =>
      exact ⟨p, hOperation', hElement'⟩

end Tells

end BatchSession

end DeviceHub

------------------------------------------------------------
-- From Creation to Removal
------------------------------------------------------------

namespace DeviceHub

namespace BatchSession

variable {κ : Type}

/- Of a new operation's elements nothing is told yet. -/
theorem Means.tells_nothing
    {s s' : BatchSession κ}
    {o : BatchOperation}
    (hSound : s.Sound)
    (hCreated : Means s s' (.created o))
    (i : Nat)
    (x : BatchElement) :
    s'.get? o.id = some o ∧ s'.Tells o.id i x x [] := by
  rcases hCreated with ⟨hFree, hEngine, -⟩
  have hNoRun := hSound.engine.no_run_of_unknown hFree
  refine ⟨?_, .untouched, ?_⟩
  · simp [BatchSession.get?, BatchEngine.get?, hEngine,
      BatchEngine.insert]
  · intro n
    constructor
    · rintro ⟨z, ⟨left, hActs⟩, -⟩
      rw [hEngine] at hActs
      exact absurd hActs (hNoRun n _)
    · rintro ⟨status, hTold⟩
      cases hTold

/-
  From the creation of an operation on and until it is
  removed, whatever moves are made: the action on an element
  begins at most once, the element is what the result of
  that one action makes of it, and once it is processed it
  stays as it is and its action does not begin again.  From
  its beginning to its end a run acts on the element, and the
  end is told with its result.
-/
theorem element_settles_once
    {s s' : BatchSession κ}
    {m : BatchMove κ}
    {o : BatchOperation}
    (hReach : s.Reachable)
    (hCreated : s.step m = (some (.created o), s'))
    (moves : List (BatchMove κ))
    (hKept : ∀ b ∈ (s'.run moves).1, b.removes o.id = false)
    {i : Nat}
    {x : BatchElement}
    (hElement : o.elements[i]? = some x) :
    let r := s'.run moves
    x = .new i x.hardwareId ∧
    ∃ p y, r.2.get? o.id = some p ∧
      p.elements[i]? = some y ∧
      ElementStory o.id x y (BatchNote.story o.id i r.1) ∧
      (∀ n, (∃ z, r.2.Acts n o.id z ∧ z.index = i) ↔
        ∃ status, BatchNote.story o.id i r.1 =
          [.began n o.id x status]) ∧
      (∀ n z, r.2.Acts n o.id z → z.index = i →
        ∀ now result,
          let ended := r.2.step (.settle n now result)
          ended.1 = some (.ended n o.id i now result) ∧
          ∃ q, ended.2.get? o.id = some q ∧
            q.elements[i]? = some (x.settle now result)) ∧
      (y.isProcessed = true →
        ∀ later : List (BatchMove κ),
          (∀ b ∈ (r.2.run later).1,
            b.removes o.id = false) →
          BatchNote.story o.id i (r.2.run later).1 = [] ∧
          ∃ q, (r.2.run later).2.get? o.id = some q ∧
            q.elements[i]? = some y) := by
  have hChange := hReach.sound.change_step m
  rw [hCreated] at hChange
  have hMeans := hChange.means _ rfl
  have hNew : x = .new i x.hardwareId :=
    hMeans.2.2 i x hElement
  have hIndex : x.index = i := by
    rw [hNew]
    rfl
  have hUnprocessed : x.isProcessed = false := by
    rw [hNew]
    rfl
  rcases hMeans.tells_nothing hReach.sound i x with
    ⟨hFirst, hNothing⟩
  rcases hNothing.run hChange.sound hFirst hElement hIndex
    moves hKept with ⟨p, hOperation, y, hPlace, hTells⟩
  have hSound := hChange.sound.run moves
  refine ⟨hNew, p, y, hOperation, hPlace, hTells.story,
    hTells.busy, ?_, ?_⟩
  · intro n z hActs hHere
    exact hTells.settled hSound hOperation hPlace hIndex
      hActs hHere
  · intro hProcessed later hLater
    rcases hTells.run hSound hOperation hPlace hIndex later
      hLater with ⟨q, hOperation', z, hPlace', hTells'⟩
    rcases hTells.story.eq_of_isProcessed hUnprocessed
      hProcessed hTells'.story with ⟨rfl, hNoMore⟩
    exact ⟨hNoMore, q, hOperation', hPlace'⟩

/- The first device is rebooted, with success. -/
theorem element_settles_once_reboot :
    let s := rebootSession 0
    let s' := (s.step (.resolve 0 (.ok []) default)).2
    let moves : List (BatchMove Unit) :=
      [.process "r" default, .turn 1 default,
        .settle 1 default (.ok .empty)]
    s.step (.resolve 0 (.ok []) default) =
        (some (.created rebootOperation), s') ∧
      (∀ b ∈ (s'.run moves).1, b.removes "r" = false) ∧
      ∃ p y, (s'.run moves).2.get? "r" = some p ∧
        p.elements[0]? = some y ∧
        ElementStory "r" (.new 0 "a") y
          (BatchNote.story "r" 0 (s'.run moves).1) ∧
        y.status = .succeeded := by
  intro s s' moves
  have hCreated : s.step (.resolve 0 (.ok []) default) =
      (some (.created rebootOperation), s') := rfl
  have hNotes : (s'.run moves).1 =
      [.began 1 "r" (.new 0 "a") .started,
        .ended 1 "r" 0 default (.ok .empty)] := rfl
  have hKept : ∀ b ∈ (s'.run moves).1,
      b.removes "r" = false := by
    rw [hNotes]
    simp [BatchNote.removes]
  rcases element_settles_once (reachable_rebootSession 0)
    hCreated moves hKept (i := 0) (x := .new 0 "a") rfl with
      ⟨-, p, y, hOperation, hPlace, hStory, -⟩
  refine ⟨hCreated, hKept, p, y, hOperation, hPlace, hStory,
    ?_⟩
  rw [hNotes] at hStory
  cases hStory with
  | complete ticket status now result => rfl

end BatchSession

end DeviceHub
