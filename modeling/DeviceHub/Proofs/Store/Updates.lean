import DeviceHub.Proofs.Store.Effects
import DeviceHub.Store.Session

/-
  The state of a use after any updates: each part of it is
  as the last event tells that tells of it.

  An update goes to the use that its device points to.  It
  changes the state of this use, or it fails and changes
  nothing.

  Key definitions include:
    * `StoredEvent.lastTold`
    * `AssignmentState.Follows`
    * `DeviceStore.heard`
    * `DeviceStore.Updated`

  Main statements:
    * `AssignmentState.follows_foldl`
    * `DeviceStore.updated_takeUpdates`
    * `DeviceStore.takeUpdates_succeeded`
    * `DeviceStore.state_is_last_told`
-/

namespace DeviceHub

------------------------------------------------------------
-- What Events Say
------------------------------------------------------------

namespace StoredEvent

/- The value that an event gives to a measured name. -/
def measured?
    (name : String)
    (e : StoredEvent) : Option Binary64 :=
  match e.kind with
  | .measurements values => values.get? name
  | _ => none

/- The place that an event tells of. -/
def location?
    (e : StoredEvent) : Option Location :=
  match e.kind with
  | .location latitude longitude elevation =>
      some ⟨latitude, longitude, elevation⟩
  | _ => none

/- The alert that an event tells of. -/
def alert?
    (e : StoredEvent) : Option AlertSummary :=
  match e.kind with
  | .alert level alertType message =>
      some ⟨level, alertType, message⟩
  | _ => none

/-
  What the last event tells that tells anything, or else
  what was known before.
-/
def lastTold
    {β : Type}
    (tells : StoredEvent → Option β)
    (events : List StoredEvent)
    (before : Option β) : Option β :=
  (events.filterMap tells).getLast?.or before

/- The first event counts only if none after it tells. -/
theorem lastTold_cons
    {β : Type}
    (tells : StoredEvent → Option β)
    (e : StoredEvent)
    (rest : List StoredEvent)
    (before : Option β) :
    lastTold tells (e :: rest) before =
      lastTold tells rest ((tells e).or before) := by
  unfold lastTold
  rw [List.filterMap_cons]
  cases tells e with
  | none => rfl
  | some b =>
      dsimp only
      rw [List.getLast?_cons]
      cases (rest.filterMap tells).getLast? <;> rfl

end StoredEvent

------------------------------------------------------------
-- States
------------------------------------------------------------

namespace AssignmentState

/- A state of use after events, part by part. -/
structure Follows
    (before : AssignmentState)
    (events : List StoredEvent)
    (after : AssignmentState) : Prop where
  interaction : after.lastInteractionDate =
    StoredEvent.lastTold (fun e => some e.eventDate) events
      before.lastInteractionDate
  measurements : ∀ name,
    after.latestMeasurements.get? name =
      StoredEvent.lastTold (·.measured? name) events
        (before.latestMeasurements.get? name)
  location : after.lastLocation =
    StoredEvent.lastTold (·.location?) events
      before.lastLocation
  alert : after.lastAlert =
    StoredEvent.lastTold (·.alert?) events before.lastAlert

theorem follows_nil
    (state : AssignmentState) :
    state.Follows [] state :=
  ⟨rfl, fun _ => rfl, rfl, rfl⟩

/- An event tells of its date and, by its kind, of one part. -/
theorem parts_stateAfter
    (state : AssignmentState)
    (e : StoredEvent) :
    (DeviceStore.stateAfter state e).lastInteractionDate =
        some e.eventDate ∧
      (∀ name, (DeviceStore.stateAfter state e
        ).latestMeasurements.get? name =
          (e.measured? name).or
            (state.latestMeasurements.get? name)) ∧
      (DeviceStore.stateAfter state e).lastLocation =
        e.location?.or state.lastLocation ∧
      (DeviceStore.stateAfter state e).lastAlert =
        e.alert?.or state.lastAlert := by
  unfold DeviceStore.stateAfter StoredEvent.measured?
    StoredEvent.location? StoredEvent.alert?
  cases e.kind with
  | measurements values =>
      exact ⟨rfl, Dict.get?_union _ values, rfl, rfl⟩
  | location | alert | commandInvocation | commandResponse =>
      exact ⟨rfl, fun _ => rfl, rfl, rfl⟩

/- What follows from the state after an event. -/
theorem Follows.cons
    {state after : AssignmentState}
    {e : StoredEvent}
    {rest : List StoredEvent}
    (hRest :
      (DeviceStore.stateAfter state e).Follows rest after) :
    state.Follows (e :: rest) after := by
  rcases state.parts_stateAfter e with
    ⟨hDate, hMeasured, hLocation, hAlert⟩
  constructor
  · rw [hRest.interaction, hDate, StoredEvent.lastTold_cons]
    rfl
  · intro name
    rw [hRest.measurements, hMeasured,
      StoredEvent.lastTold_cons]
  · rw [hRest.location, hLocation, StoredEvent.lastTold_cons]
  · rw [hRest.alert, hAlert, StoredEvent.lastTold_cons]

theorem follows_foldl
    (state : AssignmentState)
    (events : List StoredEvent) :
    state.Follows events
      (events.foldl DeviceStore.stateAfter state) := by
  induction events generalizing state with
  | nil => exact follows_nil state
  | cons e rest ih =>
      exact (ih (DeviceStore.stateAfter state e)).cons

end AssignmentState

------------------------------------------------------------
-- One Update
------------------------------------------------------------

namespace DeviceStore

variable {s s' s'' : DeviceStore}
variable {turns turns' : List StateTurn}

/- The ways in which an update can go. -/
inductive UpdateOf
    (s : DeviceStore)
    (u : StateUpdate) :
    Except StoreError Unit × DeviceStore → Prop where
  | refused
      {e : StoreError}
      (hRefusal : s.refusal? true u.hardwareId = some e) :
      UpdateOf s u (.error e, s)
  | made
      {token : String}
      {a : DeviceAssignment}
      (hRefusal : s.refusal? true u.hardwareId = none)
      (hToken : s.tokenOf? u.hardwareId = some token)
      (hUse : s.assignments.get? token = some a) :
      UpdateOf s u (.ok (), { s with
        assignments := s.assignments.insert token
          { a with state := stateAfter a.state u.event } })

theorem updateOf_takeUpdate
    (s : DeviceStore)
    (u : StateUpdate) :
    UpdateOf s u (s.takeUpdate u) := by
  unfold takeUpdate updateState
  cases hDevice : s.devices.get? u.hardwareId with
  | none =>
      refine .refused ?_
      simp only [refusal?, hDevice]
  | some d =>
      cases hToken : d.assignmentToken with
      | none =>
          simp only [hToken]
          refine .refused ?_
          simp only [refusal?, hDevice, hToken, if_true]
      | some token =>
          cases hUse : s.assignments.get? token with
          | none =>
              simp only [hToken, hUse]
              refine .refused ?_
              simp [refusal?, hDevice, hToken, hUse]
          | some a =>
              simp only [hToken, hUse]
              refine .made ?_ ?_ hUse
              · simp [refusal?, hDevice, hToken, hUse]
              · simp [tokenOf?, hDevice, hToken]

/- Only an update that is made changes anything. -/
theorem UpdateOf.eq_self
    {u : StateUpdate}
    {r : Except StoreError Unit × DeviceStore}
    (hUpdate : UpdateOf s u r)
    (hFailed : StateTurn.succeeded ⟨u, r.1⟩ = false) :
    r.2 = s := by
  cases hUpdate with
  | refused => rfl
  | made => cases hFailed

------------------------------------------------------------
-- Any Number of Updates
------------------------------------------------------------

/- The events that were let change the use with a token. -/
def heard
    (s : DeviceStore)
    (token : String)
    (turns : List StateTurn) : List StoredEvent :=
  (turns.filter fun t => t.succeeded &&
      s.tokenOf? t.update.hardwareId = some token).map
    (·.update.event)

/- A store after updates, each of which was made or failed. -/
structure Updated
    (s : DeviceStore)
    (turns : List StateTurn)
    (s' : DeviceStore) : Prop where
  devices : s'.devices = s.devices
  commands : s'.commands = s.commands
  groups : s'.groups = s.groups
  events : s'.events = s.events
  assignments : ∀ token,
    s'.assignments.get? token =
      (s.assignments.get? token).map fun a =>
        { a with
          state :=
            (s.heard token turns).foldl stateAfter a.state }
  answers : ∀ t ∈ turns, ∀ e, t.answer = .error e ↔
    s.refusal? true t.update.hardwareId = some e

theorem Updated.nil
    (s : DeviceStore) :
    s.Updated [] s :=
  ⟨rfl, rfl, rfl, rfl, fun _ => Option.map_id'.symm,
    fun _ hMem => absurd hMem List.not_mem_nil⟩

/- Updates change nothing but the states of uses. -/
theorem Updated.alike
    (hUpdated : s.Updated turns s') :
    s.Alike s' := by
  refine ⟨hUpdated.devices, hUpdated.commands,
    hUpdated.groups, fun token => ?_⟩
  rw [hUpdated.assignments, Option.map_map]
  rfl

theorem Updated.append
    (hFirst : s.Updated turns s')
    (hSecond : s'.Updated turns' s'') :
    s.Updated (turns ++ turns') s'' := by
  have hHeard : ∀ token,
      s'.heard token turns' = s.heard token turns' := by
    intro token
    unfold heard tokenOf?
    rw [hFirst.devices]
  refine ⟨hSecond.devices.trans hFirst.devices,
    hSecond.commands.trans hFirst.commands,
    hSecond.groups.trans hFirst.groups,
    hSecond.events.trans hFirst.events, fun token => ?_,
    fun t hMem e => ?_⟩
  · rw [hSecond.assignments, hFirst.assignments,
      Option.map_map, hHeard]
    congr 1
    funext a
    simp only [Function.comp, heard, List.filter_append,
      List.map_append, List.foldl_append]
  · rcases List.mem_append.1 hMem with hOld | hNew
    · exact hFirst.answers t hOld e
    · rw [hSecond.answers t hNew e,
        hFirst.alike.refusal?_eq]

/- One update goes to the use that its device points to. -/
theorem UpdateOf.updated
    {u : StateUpdate}
    {r : Except StoreError Unit × DeviceStore}
    (hUpdate : UpdateOf s u r) :
    s.Updated [⟨u, r.1⟩] r.2 := by
  cases hUpdate with
  | @refused e hRefusal =>
      refine ⟨rfl, rfl, rfl, rfl,
        fun _ => Option.map_id'.symm, fun t hMem f => ?_⟩
      rw [List.mem_singleton.1 hMem, hRefusal,
        Except.error.injEq, Option.some.injEq]
  | @made token a hRefusal hToken hUse =>
      refine ⟨rfl, rfl, rfl, rfl, fun other => ?_,
        fun t hMem f => ?_⟩
      · rw [Dict.get?_insert]
        by_cases hOther : other = token
        · subst hOther
          simp [heard, StateTurn.succeeded, hToken, hUse]
        · have hElse : some token ≠ some other :=
            fun hSame => hOther (Option.some.inj hSame).symm
          simp [heard, StateTurn.succeeded, hToken, hOther,
            hElse]
      · rw [List.mem_singleton.1 hMem, hRefusal]
        exact iff_of_false nofun nofun

theorem updated_takeUpdates
    (s : DeviceStore)
    (updates : List StateUpdate) :
    s.Updated (s.takeUpdates updates).1
      (s.takeUpdates updates).2 := by
  refine runAll_induct
    (P := fun _ turns s' => s.Updated turns s')
    (fun _ _ s' u hBefore => ?_) (.nil s) updates
  exact hBefore.append (s'.updateOf_takeUpdate u).updated

/- The turns are those of the updates, in order. -/
theorem map_update_takeUpdates
    (s : DeviceStore)
    (updates : List StateUpdate) :
    (s.takeUpdates updates).1.map (·.update) = updates :=
  map_runAll (fun _ _ => rfl) s updates

/- Without those that fail, updates come to the same. -/
theorem takeUpdates_succeeded
    (s : DeviceStore)
    (updates : List StateUpdate) :
    (s.takeUpdates
      (((s.takeUpdates updates).1.filter (·.succeeded)).map
        (·.update))).2 = (s.takeUpdates updates).2 := by
  refine runAll_induct
    (P := fun _ (turns : List StateTurn) s' =>
      (s.takeUpdates ((turns.filter (·.succeeded)).map
        (·.update))).2 = s')
    (fun _ turns s' u hBefore => ?_) rfl updates
  rw [List.filter_append, List.map_append, takeUpdates,
    runAll_append]
  dsimp only
  rw [show (runAll _ s _).2 = s' from hBefore]
  cases hMade :
      StateTurn.succeeded ⟨u, (s'.takeUpdate u).1⟩ with
  | true =>
      rw [List.filter_cons_of_pos hMade]
      rfl
  | false =>
      rw [List.filter_cons_of_neg (by simp [hMade])]
      exact ((s'.updateOf_takeUpdate u).eq_self hMade).symm

/-
  After any updates of a store, whichever of them fail: they
  fail exactly if there is a reason, and the store is as if
  they had been left out.  Of a use, each part of the state
  is as the last event tells, among those that were let
  change it, that tells of this part, or else as it was
  before; nothing else is changed.
-/
theorem state_is_last_told
    (s : DeviceStore)
    (updates : List StateUpdate) :
    let r := s.takeUpdates updates
    let s' := r.2
    r.1.map (·.update) = updates ∧
    (∀ t ∈ r.1, ∀ e, t.answer = .error e ↔
      s.refusal? true t.update.hardwareId = some e) ∧
    (s.takeUpdates
      ((r.1.filter (·.succeeded)).map (·.update))).2 = s' ∧
    s'.devices = s.devices ∧ s'.commands = s.commands ∧
    s'.groups = s.groups ∧ s'.events = s.events ∧
    ∀ token,
      (s.assignments.get? token = none →
        s'.assignments.get? token = none) ∧
      ∀ a, s.assignments.get? token = some a →
        ∃ state,
          s'.assignments.get? token =
              some { a with state := state } ∧
            a.state.Follows (s.heard token r.1) state := by
  intro r s'
  have hUpdated : s.Updated r.1 s' :=
    s.updated_takeUpdates updates
  refine ⟨s.map_update_takeUpdates updates,
    hUpdated.answers, s.takeUpdates_succeeded updates,
    hUpdated.devices, hUpdated.commands, hUpdated.groups,
    hUpdated.events, fun token => ?_⟩
  rw [hUpdated.assignments]
  refine ⟨fun hNone => ?_, fun a hUse => ?_⟩
  · rw [hNone]
    rfl
  · rw [hUse]
    exact ⟨_, rfl, a.state.follows_foldl _⟩

end DeviceStore

end DeviceHub
