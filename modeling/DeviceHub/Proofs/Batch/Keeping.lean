import DeviceHub.Proofs.Batch.Session

/-
  Which operations the engine keeps, and since when.

  The ids that are kept change with a submission that ends
  well and with a removal, and with nothing else.  Between
  two operations created under one id the first is removed.

  Key definitions include:
    * `BatchTargets.Answered`
    * `BatchEngine.KeepsIds`
    * `BatchSession.Created`
    * `BatchSession.Removed`
    * `BatchSession.Recorded`

  Main statements:
    * `BatchSession.Sound.keeping_step`
    * `BatchSession.Recorded.step`
    * `BatchSession.Sound.removed_between`
    * `BatchSession.store_changes`
-/

------------------------------------------------------------
-- Kept Ids
------------------------------------------------------------

namespace DeviceHub

namespace BatchEngine

/- Two engines keep operations under the same ids. -/
def KeepsIds
    (e e' : BatchEngine) : Prop :=
  ∀ id, (e'.operations.get? id).isSome =
    (e.operations.get? id).isSome

namespace KeepsIds

variable {e e' e'' : BatchEngine}

theorem refl
    (e : BatchEngine) :
    e.KeepsIds e :=
  fun _ => rfl

theorem trans
    (hFirst : e.KeepsIds e')
    (hSecond : e'.KeepsIds e'') :
    e.KeepsIds e'' :=
  fun id => (hSecond id).trans (hFirst id)

/- The engine's list of ids is the same. -/
theorem mem_operationIds_iff
    (hKeeps : e.KeepsIds e')
    (id : String) :
    id ∈ e'.operationIds ↔ id ∈ e.operationIds := by
  simp only [operationIds, Dict.mem_keys_iff, hKeeps id]

theorem update
    (e : BatchEngine)
    (id : String)
    (f : TrackedOperation → TrackedOperation) :
    e.KeepsIds (e.update id f) := by
  intro j
  rw [get?_update]
  split <;> simp

theorem acquire
    (e : BatchEngine)
    (now : Instant)
    (n : Nat)
    (id : String) :
    e.KeepsIds (e.acquire now n id) := by
  intro j
  rw [get?_acquire]
  split <;> simp

theorem process
    {status : Status}
    {now : Instant}
    {n : Nat}
    {id : String}
    (hOk : e.process status now n id = .ok e') :
    e.KeepsIds e' := by
  rcases process_cases hOk with
    ⟨t, -, ⟨-, rfl⟩ | ⟨-, rfl⟩⟩
  · exact acquire (e.enroll n id) now n id
  · exact update (e.enroll n id) id _

theorem turn
    (e : BatchEngine)
    (status : Status)
    (n : Nat) :
    e.KeepsIds (e.turn status n).2 := by
  unfold BatchEngine.turn
  split <;> exact fun _ => rfl

theorem wake
    (e : BatchEngine)
    (n : Nat) :
    e.KeepsIds (e.wake n).2 := by
  unfold BatchEngine.wake
  split <;> exact fun _ => rfl

theorem settle
    (e : BatchEngine)
    (now : Instant)
    (n : Nat)
    (result : Except String (Dict String)) :
    e.KeepsIds (e.settle now n result) := by
  unfold BatchEngine.settle
  split
  · exact update e _ _
  · exact refl _

theorem handOver
    (e : BatchEngine)
    (now : Instant)
    (id : String) :
    e.KeepsIds (e.handOver now id) := by
  unfold BatchEngine.handOver
  split
  · exact refl _
  · split
    · exact update e id _
    · exact (update e id _).trans (acquire _ now _ id)

theorem finish
    (e : BatchEngine)
    (now : Instant)
    (n : Nat) :
    e.KeepsIds (e.finish now n).2 := by
  unfold BatchEngine.finish
  split
  · exact refl _
  · rename_i r _
    have hEnded := update e r.operationId fun t =>
      { t with operation := t.operation.markEnded now }
    exact hEnded.trans (handOver (_ : BatchEngine) now _)

end KeepsIds

end BatchEngine

end DeviceHub

------------------------------------------------------------
-- Submissions
------------------------------------------------------------

namespace DeviceHub

namespace BatchTargets

/-
  What a storage answers to the search for the devices of
  targets.  Devices that are listed need no search.
-/
def Answered
    (b : Backend)
    (answer : Except StoreError (List Device)) :
    BatchTargets → Prop
  | devices _ => True
  | criteria c => ∀ search, c.search = .ok search →
      lookUp b c search = answer

/- The answer is all that is taken from the storage. -/
theorem Answered.resolve_eq
    {b : Backend}
    {answer : Except StoreError (List Device)}
    {t : BatchTargets}
    (hAnswered : t.Answered b answer) :
    t.resolve b = t.resolveWith fun _ _ => answer := by
  cases t with
  | devices ids => rfl
  | criteria c =>
      cases hSearch : c.search with
      | error e => simp [resolve, resolveWith, hSearch]
      | ok search =>
          simp [resolve, resolveWith, hSearch,
            hAnswered search hSearch]

end BatchTargets

namespace BatchSession

variable {κ : Type}

/-
  A submission `p` ends well with the operation `o`, which is
  kept from then on beside those kept before.
-/
structure Created
    (s s' : BatchSession κ)
    (p : Submission)
    (answer : Except StoreError (List Device))
    (o : BatchOperation) : Prop where
  named : o.id = p.id
  requested : ∀ id,
    BatchEngine.requestedId? p.request = some id → o.id = id
  unknown : s.engine.operations.get? o.id = none
  kept : ∀ id, s'.engine.operations.get? id =
    if id = o.id then some ⟨o, none, []⟩
    else s.engine.operations.get? id
  unprocessed : ∀ x ∈ o.elements, x.status = .unprocessed
  resolved : ∀ b, p.request.targets.Answered b answer →
    p.request.targets.resolve b =
      .ok (o.elements.map (·.hardwareId))

/-
  The operation `o` that was kept under an id is finished, no
  run is on it, and it alone is not kept any longer.
-/
structure Removed
    (s s' : BatchSession κ)
    (id : String)
    (o : BatchOperation) : Prop where
  stored : s.get? id = some o
  named : o.id = id
  idle : ∀ n p, s.engine.run? n ≠ some ⟨n, id, p⟩
  processed : ∀ x ∈ o.elements, x.isProcessed = true
  kept : ∀ j, s'.engine.operations.get? j =
    if j = id then none
    else s.engine.operations.get? j

/- Submissions under way have the ids they asked for. -/
def Asked
    (s : BatchSession κ) : Prop :=
  ∀ p ∈ s.submissions, ∃ made,
    p.id = BatchEngine.operationId p.request made

/- A move may take one submission on. -/
theorem Asked.step
    {s : BatchSession κ}
    (hAsked : s.Asked)
    (m : BatchMove κ) :
    (s.step m).2.Asked := by
  cases m with
  | submit r made =>
      simp only [BatchSession.step, submit]
      split
      · exact hAsked
      · intro p hMem
        rcases List.mem_append.1 hMem with hOld | hNew
        · exact hAsked p hOld
        · rw [List.mem_singleton.1 hNew]
          exact ⟨made, rfl⟩
  | resolve ticket answer now =>
      simp only [BatchSession.step, resolve]
      split
      · exact hAsked
      · split <;>
          exact fun p hMem =>
            hAsked p (List.mem_filter.1 hMem).1
  | process id now =>
      simp only [BatchSession.step, process]
      split <;> exact hAsked
  | turn ticket now =>
      simp only [BatchSession.step, turn]
      split
      · exact hAsked
      · split <;> exact hAsked
  | wake ticket =>
      simp only [BatchSession.step, wake]
      split <;> exact hAsked
  | settle ticket now result =>
      simp only [BatchSession.step, settle]
      split <;> exact hAsked
  | get id => exact hAsked
  | remove id =>
      simp only [BatchSession.step, remove]
      split <;> exact hAsked
  | control hooks action => exact hAsked
  | change status reason => exact hAsked

theorem Asked.run
    {s : BatchSession κ}
    (hAsked : s.Asked)
    (moves : List (BatchMove κ)) :
    (s.run moves).2.Asked :=
  runAll_keeps (P := Asked) (fun _ m hAsked => hAsked.step m)
    hAsked moves

theorem Reachable.asked
    {s : BatchSession κ}
    (hReach : s.Reachable) :
    s.Asked := by
  rcases hReach with ⟨throttle, component, moves, rfl⟩
  refine Asked.run ?_ moves
  intro p hMem
  cases hMem

end BatchSession

end DeviceHub

------------------------------------------------------------
-- Moves
------------------------------------------------------------

namespace DeviceHub

namespace BatchNote

/- Whether a note is none of the answers of the store. -/
def isQuiet : BatchNote → Bool
  | created _ => false
  | removed _ => false
  | refused _ => false
  | _ => true

end BatchNote

namespace BatchSession

variable {κ : Type}

/-
  What a move does to the operations that are kept.  The
  elements of an operation can change quietly.
-/
inductive Keeping
    (s : BatchSession κ)
    (m : BatchMove κ)
    (r : Option BatchNote × BatchSession κ) : Prop where
  | created
      {ticket : Nat}
      {answer : Except StoreError (List Device)}
      {now : Instant}
      {p : Submission}
      {o : BatchOperation}
      (hMove : m = .resolve ticket answer now)
      (hFound : s.submissions.find? (·.ticket = ticket) =
        some p)
      (hNote : r.1 = some (.created o))
      (hCreated : Created s r.2 p answer o)
  | removed
      {id : String}
      {o : BatchOperation}
      (hMove : m = .remove id)
      (hNote : r.1 = some (.removed o))
      (hRemoved : Removed s r.2 id o)
  | refused
      {e : BatchError}
      (hNote : r.1 = some (.refused e))
      (hEngine : r.2.engine = s.engine)
  | quiet
      (hNote : ∀ b ∈ r.1, b.isQuiet = true)
      (hKeeps : s.engine.KeepsIds r.2.engine)

theorem Asked.keeping_resolve
    {s : BatchSession κ}
    (hAsked : s.Asked)
    (ticket : Nat)
    (answer : Except StoreError (List Device))
    (now : Instant) :
    Keeping s (.resolve ticket answer now)
      (s.resolve ticket answer now) := by
  unfold resolve
  split
  · exact .quiet (fun _ hb => by cases hb) (.refl _)
  · rename_i p hFound
    dsimp only
    split
    · exact .refused rfl rfl
    · rename_i o engine hOk
      rcases accept_cases hOk with ⟨ids, hIds, hFree, rfl, rfl⟩
      refine .created rfl hFound rfl
        ⟨rfl, ?_, hFree, ?_, ?_, ?_⟩
      · intro id hId
        have hMem := List.mem_of_find?_eq_some hFound
        rcases hAsked p hMem with ⟨made, hp⟩
        rw [BatchEngine.operationId, hId] at hp
        exact hp
      · intro id
        simp [BatchEngine.insert, Dict.get?_insert]
      · intro x hMem
        rw [BatchOperation.eq_new_of_mem_ofRequest hMem]
        rfl
      · intro b hAnswered
        rw [hAnswered.resolve_eq, hIds,
          BatchOperation.hardwareIds_ofRequest]

theorem Sound.keeping_remove
    {s : BatchSession κ}
    (hSound : s.Sound)
    (id : String) :
    Keeping s (.remove id) (s.remove id) := by
  unfold remove
  split
  · exact .refused rfl rfl
  · rename_i o engine hOk
    rcases BatchEngine.remove_cases hOk with
      ⟨t, hOperation, rfl, hFree, hFinished, rfl⟩
    have hHere := hSound.engine.sound id t hOperation
    refine .removed rfl rfl ⟨?_, hHere.named,
      hHere.no_run_of_free hFree, ?_, ?_⟩
    · simp [BatchSession.get?, BatchEngine.get?, hOperation]
    · exact List.all_eq_true.1 hFinished
    · intro j
      exact Dict.get?_erase _ _ _

theorem keeping_turn
    (s : BatchSession κ)
    (ticket : Nat)
    (now : Instant) :
    Keeping s (.turn ticket now) (s.turn ticket now) := by
  unfold turn
  split
  · exact .quiet (fun _ hb => by cases hb) (.refl _)
  · rename_i r _
    have hTurn :=
      BatchEngine.KeepsIds.turn s.engine s.status ticket
    split <;> rename_i engine hEq <;> rw [hEq] at hTurn
    · exact .quiet (fun _ hb => by cases hb) hTurn
    · refine .quiet ?_ hTurn
      intro b hb
      cases hb
      rfl
    · refine .quiet ?_ (hTurn.trans (.finish engine now _))
      intro b hb
      rcases Option.map_eq_some_iff.1 hb with ⟨o, -, rfl⟩
      rfl

/- What any move does to the operations that are kept. -/
theorem Sound.keeping_step
    {s : BatchSession κ}
    (hSound : s.Sound)
    (hAsked : s.Asked)
    (m : BatchMove κ) :
    Keeping s m (s.step m) := by
  cases m with
  | submit r made =>
      simp only [BatchSession.step, submit]
      split
      · exact .refused rfl rfl
      · exact .quiet (fun _ hb => by cases hb) (.refl _)
  | resolve ticket answer now =>
      exact hAsked.keeping_resolve ticket answer now
  | process id now =>
      simp only [BatchSession.step, process]
      split
      · exact .refused rfl rfl
      · rename_i engine hOk
        exact .quiet (fun _ hb => by cases hb) (.process hOk)
  | turn ticket now => exact s.keeping_turn ticket now
  | wake ticket =>
      simp only [BatchSession.step, wake]
      split
      · refine .quiet ?_ (.wake s.engine ticket)
        intro b hb
        cases hb
        rfl
      · exact .quiet (fun _ hb => by cases hb) (.refl _)
  | settle ticket now result =>
      simp only [BatchSession.step, settle]
      split
      · refine .quiet ?_ (.settle s.engine now ticket result)
        intro b hb
        cases hb
        rfl
      · exact .quiet (fun _ hb => by cases hb) (.refl _)
  | get id =>
      refine .quiet ?_ (.refl _)
      intro b hb
      cases hb
      rfl
  | remove id => exact hSound.keeping_remove id
  | control hooks action =>
      refine .quiet ?_ (.refl _)
      intro b hb
      cases hb
      rfl
  | change status reason =>
      exact .quiet (fun _ hb => by cases hb) (.refl _)

end BatchSession

end DeviceHub

------------------------------------------------------------
-- Runs
------------------------------------------------------------

namespace DeviceHub

namespace BatchSession

variable {κ : Type}

/- No effect is the end of an operation. -/
theorem Effect.isSome_get?
    {s s' : BatchSession κ}
    {id : String}
    {o : BatchOperation}
    {note : Option BatchNote}
    (hEffect : Effect s s' id o note) :
    (s'.get? id).isSome = true := by
  cases hEffect with
  | quiet o' hKept _ _ _ => simp [hKept]
  | began hKept _ _ _ => simp [hKept]
  | ended hKept _ _ _ => simp [hKept]

/- A created operation is kept, and was not before. -/
theorem Sound.fresh_of_created
    {s : BatchSession κ}
    (hSound : s.Sound)
    {m : BatchMove κ}
    {o : BatchOperation}
    (hCreated : (s.step m).1 = some (.created o)) :
    s.get? o.id = none ∧
      ((s.step m).2.get? o.id).isSome = true := by
  rcases (hSound.change_step m).means _ hCreated with
    ⟨hFree, hEngine, -⟩
  simp [BatchSession.get?, BatchEngine.get?, hFree, hEngine,
    BatchEngine.insert]

/-
  What the notes so far tell of the operations: one that was
  created is kept until it is removed, and it is removed
  before another one is created under its id.
-/
structure Recorded
    (s : BatchSession κ)
    (notes : List BatchNote) : Prop where
  sound : s.Sound
  kept : ∀ before o after,
    notes = before ++ .created o :: after →
    (∀ b ∈ after, b.removes o.id = false) →
      (s.get? o.id).isSome = true
  apart : ∀ before o between o' after,
    notes = before ++ .created o :: between ++
      .created o' :: after →
    o.id = o'.id → ∃ b ∈ between, b.removes o.id = true

/- What is kept stays so with a move that removes nothing. -/
theorem Sound.isSome_step
    {s : BatchSession κ}
    (hSound : s.Sound)
    {m : BatchMove κ}
    {id : String}
    (hKept : (s.get? id).isSome = true)
    (hNone : ∀ b, (s.step m).1 = some b →
      b.removes id = false) :
    ((s.step m).2.get? id).isSome = true := by
  rcases Option.isSome_iff_exists.1 hKept with ⟨o, ho⟩
  exact ((hSound.change_step m).effect id o ho
    hNone).isSome_get?

theorem Recorded.step
    {s : BatchSession κ}
    {notes : List BatchNote}
    (hRecorded : s.Recorded notes)
    (m : BatchMove κ) :
    (s.step m).2.Recorded
      (notes ++ (s.step m).1.toList) := by
  have hSound := hRecorded.sound
  refine ⟨(hSound.change_step m).sound, ?_, ?_⟩
  · intro before o after hNotes hAfter
    cases hNote : (s.step m).1 with
    | none =>
        rw [hNote, Option.toList_none, List.append_nil]
          at hNotes
        refine hSound.isSome_step
          (hRecorded.kept before o after hNotes hAfter) ?_
        simp [hNote]
    | some b =>
        rw [hNote, Option.toList_some, concat_eq_split_iff]
          at hNotes
        rcases hNotes with ⟨-, rfl, -⟩ | ⟨rest, hBefore, rfl⟩
        · exact (hSound.fresh_of_created hNote).2
        · refine hSound.isSome_step
            (hRecorded.kept before o rest hBefore
              fun b hMem =>
                hAfter b (List.mem_append_left _ hMem)) ?_
          intro b' hb'
          rw [hNote, Option.some.injEq] at hb'
          exact hb' ▸ hAfter b (by simp)
  · intro before o between o' after hNotes hId
    cases hNote : (s.step m).1 with
    | none =>
        rw [hNote, Option.toList_none, List.append_nil]
          at hNotes
        exact hRecorded.apart before o between o' after hNotes
          hId
    | some b =>
        rw [hNote, Option.toList_some, concat_eq_split_iff]
          at hNotes
        rcases hNotes with ⟨hBefore, rfl, -⟩ | ⟨rest, hBefore, -⟩
        -- Unless it was removed, the first is kept till now.
        · cases hGone : between.any (·.removes o.id) with
          | true => exact List.any_eq_true.1 hGone
          | false =>
              have hKept := hRecorded.kept before o between
                hBefore (by simpa using hGone)
              rw [hId, (hSound.fresh_of_created hNote).1]
                at hKept
              cases hKept
        · exact hRecorded.apart before o between o' rest
            hBefore hId

/-
  Between two operations created under one id the first is
  removed.
-/
theorem Sound.removed_between
    {s : BatchSession κ}
    (hSound : s.Sound)
    (moves : List (BatchMove κ))
    {before between after : List BatchNote}
    {o o' : BatchOperation}
    (hNotes : (s.run moves).1 =
      before ++ .created o :: between ++
        .created o' :: after)
    (hId : o.id = o'.id) :
    ∃ b ∈ between, b.removes o.id = true := by
  have hRecorded : (s.run moves).2.Recorded (s.run moves).1 :=
    runAll_induct
      (P := fun _ notes (s : BatchSession κ) =>
        s.Recorded notes)
      (fun _ _ _ m hRecorded => hRecorded.step m)
      ⟨hSound, by simp, by simp⟩ moves
  exact hRecorded.apart before o between o' after hNotes hId

end BatchSession

end DeviceHub

------------------------------------------------------------
-- The Store
------------------------------------------------------------

namespace DeviceHub

namespace BatchSession

variable {κ : Type}

/-
  The ids that are kept change only with a submission that
  ends well and with a removal.  The former adds one new
  operation, on the devices that its targets lead to; the
  latter takes one away that is finished and has no run.  A
  call that is refused changes no operation, and a taken id
  is refused whatever the targets are.  Of the submissions
  with one id no second ends well before the operation of the
  first is removed.
-/
theorem store_changes
    {s : BatchSession κ}
    (hReach : s.Reachable) :
    (∀ m o, (s.step m).1 = some (.created o) →
      ∃ ticket answer now p,
        m = .resolve ticket answer now ∧
        s.submissions.find? (·.ticket = ticket) = some p ∧
        Created s (s.step m).2 p answer o) ∧
    (∀ m o, (s.step m).1 = some (.removed o) →
      ∃ id, m = .remove id ∧
        Removed s (s.step m).2 id o) ∧
    (∀ m e, (s.step m).1 = some (.refused e) →
      (s.step m).2.engine = s.engine) ∧
    (∀ r made, let id := BatchEngine.operationId r made
      (s.step (.submit r made)).2.engine = s.engine ∧
      ((s.get? id).isSome = true →
        s.step (.submit r made) =
          (some (.refused (.duplicateOperation id)), s))) ∧
    (∀ m, (∀ o, (s.step m).1 ≠ some (.created o) ∧
        (s.step m).1 ≠ some (.removed o)) →
      ∀ id, id ∈ (s.step m).2.engine.operationIds ↔
        id ∈ s.engine.operationIds) ∧
    (∀ moves before between after o o',
      (s.run moves).1 = before ++ .created o :: between ++
        .created o' :: after →
      o.id = o'.id →
      ∃ b ∈ between, b.removes o.id = true) := by
  have hSound := hReach.sound
  have hKeeping := hSound.keeping_step hReach.asked
  refine ⟨?_, ?_, ?_, ?_, ?_, fun moves _ _ _ _ _ =>
    hSound.removed_between moves⟩
  · intro m o hNote
    cases hKeeping m with
    | created hMove hFound hNote' hCreated =>
        rw [hNote'] at hNote
        cases hNote
        exact ⟨_, _, _, _, hMove, hFound, hCreated⟩
    | removed _ hNote' _ => simp [hNote'] at hNote
    | refused hNote' _ => simp [hNote'] at hNote
    | quiet hQuiet _ => cases hQuiet _ hNote
  · intro m o hNote
    cases hKeeping m with
    | created _ _ hNote' _ => simp [hNote'] at hNote
    | removed hMove hNote' hRemoved =>
        rw [hNote'] at hNote
        cases hNote
        exact ⟨_, hMove, hRemoved⟩
    | refused hNote' _ => simp [hNote'] at hNote
    | quiet hQuiet _ => cases hQuiet _ hNote
  · intro m e hNote
    cases hKeeping m with
    | created _ _ hNote' _ => simp [hNote'] at hNote
    | removed _ hNote' _ => simp [hNote'] at hNote
    | refused _ hEngine => exact hEngine
    | quiet hQuiet _ => cases hQuiet _ hNote
  · intro r made id
    refine ⟨?_, ?_⟩
    · simp only [step, submit]
      split <;> rfl
    · intro hTaken
      have hContains : s.engine.operations.contains id =
          true := by
        simpa [BatchSession.get?, BatchEngine.get?,
          Dict.contains] using hTaken
      simp [step, submit, BatchEngine.checkFree, id,
        hContains]
  · intro m hOther
    cases hKeeping m with
    | created _ _ hNote' _ => exact absurd hNote' (hOther _).1
    | removed _ hNote' _ => exact absurd hNote' (hOther _).2
    | refused _ hEngine => simp [hEngine]
    | quiet _ hKeeps => exact hKeeps.mem_operationIds_iff

theorem store_changes_reboot :
    let s := rebootSession 0
    let m : BatchMove Unit := .resolve 0 (.ok []) default
    let s' := (s.step m).2
    (s.step m).1 = some (.created rebootOperation) ∧
      Created s s' ⟨0, "r", rebootRequest⟩ (.ok [])
        rebootOperation ∧
      s'.Reachable ∧
      s'.step (.submit rebootRequest "r") =
        (some (.refused (.duplicateOperation "r")), s') := by
  intro s m s'
  have hReach : s.Reachable := reachable_rebootSession 0
  have hReach' : s'.Reachable := hReach.run [m]
  have hNote : (s.step m).1 =
      some (.created rebootOperation) := rfl
  have hFound : s.submissions.find? (·.ticket = 0) =
      some ⟨0, "r", rebootRequest⟩ := rfl
  rcases (store_changes hReach).1 m _ hNote with
    ⟨ticket, answer, now, p, hMove, hp, hCreated⟩
  rcases BatchMove.resolve.inj hMove with ⟨rfl, rfl, -⟩
  rw [hFound] at hp
  cases hp
  refine ⟨hNote, hCreated, hReach', ?_⟩
  have hSubmits := (store_changes hReach').2.2.2.1
  exact (hSubmits rebootRequest "r").2 rfl

end BatchSession

end DeviceHub
