import DeviceHub.Store.Devices
import DeviceHub.Proofs.Dict
import Mathlib.Data.List.Forall2

/-
  What events do to a store, told from the events alone.

  Each is kept for its device, and changes the state of the
  use that its device points to; what it does to others and
  what others have done before does not matter.

  Two stores that take the same events, each at its own time
  and under its own ids, differ in nothing but these times
  and ids.

  Key definitions include:
    * `DeviceStore.Rejects`
    * `DeviceStore.refusal?`
    * `DeviceStore.Alike`
    * `Arrival`
    * `DeviceStore.Records`
    * `DeviceStore.SameBut`

  Main statements:
    * `DeviceStore.Alike.refusal?_eq`
    * `DeviceStore.Records.append`
    * `DeviceStore.Records.sameBut`
-/

namespace DeviceHub

------------------------------------------------------------
-- What May Happen to an Event
------------------------------------------------------------

/- The assignment without what is known of its use. -/
def DeviceAssignment.stateless
    (a : DeviceAssignment) : DeviceAssignment :=
  { a with state := .initial }

namespace DeviceStore

/-
  An event fails if its device is unknown, or if it is to
  change the state of the device's use and there is none.
-/
def Rejects
    (s : DeviceStore)
    (updates : Bool)
    (hardwareId : String) : Prop :=
  s.devices.get? hardwareId = none ∨
    (updates = true ∧
      ∃ d, s.devices.get? hardwareId = some d ∧
        ∀ token, d.assignmentToken = some token →
          s.assignments.get? token = none)

/- Why a store fails an event, if it does. -/
def refusal?
    (s : DeviceStore)
    (updates : Bool)
    (hardwareId : String) : Option StoreError :=
  match s.devices.get? hardwareId with
  | none => some (.unknownDevice hardwareId)
  | some d =>
      if updates then
        match d.assignmentToken with
        | none => some (.notAssigned hardwareId)
        | some token =>
            if s.assignments.get? token |>.isSome then none
            else some (.unknownAssignment token)
      else none

/- What comes of an event at a store. -/
def verdict
    (s : DeviceStore)
    (e : DecodedEvent) : Except StoreError Unit :=
  match s.refusal? e.updateState e.hardwareId with
  | some err => .error err
  | none => .ok ()

/- An event fails exactly if there is a reason. -/
theorem rejects_iff_refusal?
    (s : DeviceStore)
    (updates : Bool)
    (hardwareId : String) :
    s.Rejects updates hardwareId ↔
      ∃ err, s.refusal? updates hardwareId = some err := by
  unfold Rejects refusal?
  cases hDevice : s.devices.get? hardwareId with
  | none => simp
  | some d =>
      cases updates with
      | false => simp
      | true =>
          cases hToken : d.assignmentToken with
          | none => simp [hToken]
          | some token =>
              cases hUse : s.assignments.get? token with
              | none => simp [hToken, hUse]
              | some a => simp [hToken, hUse]

/- Nothing differs but events and the states of use. -/
structure Alike
    (s s' : DeviceStore) : Prop where
  devices : s'.devices = s.devices
  commands : s'.commands = s.commands
  groups : s'.groups = s.groups
  assignments : ∀ token,
    (s'.assignments.get? token).map
        DeviceAssignment.stateless =
      (s.assignments.get? token).map
        DeviceAssignment.stateless

theorem Alike.refl
    (s : DeviceStore) :
    s.Alike s :=
  ⟨rfl, rfl, rfl, fun _ => rfl⟩

theorem Alike.trans
    {s s' s'' : DeviceStore}
    (hFirst : s.Alike s')
    (hSecond : s'.Alike s'') :
    s.Alike s'' :=
  ⟨hSecond.devices.trans hFirst.devices,
    hSecond.commands.trans hFirst.commands,
    hSecond.groups.trans hFirst.groups,
    fun token => (hSecond.assignments token).trans
      (hFirst.assignments token)⟩

/- Alike stores fail an event for the same reason. -/
theorem Alike.refusal?_eq
    {s s' : DeviceStore}
    (hAlike : s.Alike s')
    (updates : Bool)
    (hardwareId : String) :
    s'.refusal? updates hardwareId =
      s.refusal? updates hardwareId := by
  have hUse : ∀ token,
      (s'.assignments.get? token).isSome =
        (s.assignments.get? token).isSome := by
    intro token
    have hSame :=
      congrArg Option.isSome (hAlike.assignments token)
    rw [Option.isSome_map, Option.isSome_map] at hSame
    exact hSame
  simp only [refusal?, hAlike.devices, hUse]

/- The same comes of an event at alike stores. -/
theorem Alike.verdict_eq
    {s s' : DeviceStore}
    (hAlike : s.Alike s')
    (e : DecodedEvent) :
    s'.verdict e = s.verdict e := by
  simp only [verdict, hAlike.refusal?_eq]

end DeviceStore

------------------------------------------------------------
-- What Events Do
------------------------------------------------------------

/- An event at the time at which it comes to a store. -/
structure Arrival where
  now : Instant
  event : DecodedEvent

/- What an arrival changes in the state of a use. -/
def Arrival.change
    (state : AssignmentState)
    (x : Arrival) : AssignmentState :=
  DeviceStore.stateAfter state
    (DeviceStore.stored default "" x.now x.event.hardwareId
      x.event)

namespace DeviceStore

/- The token of the use that a device points to. -/
def tokenOf?
    (s : DeviceStore)
    (hardwareId : String) : Option String :=
  (s.devices.get? hardwareId).bind (·.assignmentToken)

/- Whether an arrival is kept among the events of a device. -/
def keeps
    (s : DeviceStore)
    (hardwareId : String)
    (x : Arrival) : Bool :=
  x.event.hardwareId = hardwareId &&
    (s.devices.get? hardwareId).isSome

/- Whether an arrival is meant for the state of a use. -/
def changes
    (s : DeviceStore)
    (token : String)
    (x : Arrival) : Bool :=
  x.event.updateState &&
    s.tokenOf? x.event.hardwareId = some token

/- The form in which an arrival is kept, under some id. -/
def KeptAs
    (s : DeviceStore)
    (x : Arrival)
    (e : StoredEvent) : Prop :=
  ∃ d id, s.devices.get? x.event.hardwareId = some d ∧
    e = stored d id x.now x.event.hardwareId x.event

/- An assignment after arrivals. -/
def after
    (s : DeviceStore)
    (token : String)
    (xs : List Arrival)
    (a : DeviceAssignment) : DeviceAssignment :=
  { a with
    state := (xs.filter (s.changes token)).foldl
      Arrival.change a.state }

/- A store after arrivals, in the order in which they came. -/
structure Records
    (s : DeviceStore)
    (xs : List Arrival)
    (s' : DeviceStore) : Prop where
  devices : s'.devices = s.devices
  commands : s'.commands = s.commands
  groups : s'.groups = s.groups
  assignments : ∀ token,
    s'.assignments.get? token =
      (s.assignments.get? token).map (s.after token xs)
  events : ∀ hardwareId, ∃ new,
    s'.eventsOf hardwareId = s.eventsOf hardwareId ++ new ∧
      List.Forall₂ s.KeptAs (xs.filter (s.keeps hardwareId))
        new

variable {s s' s'' t t' : DeviceStore}
variable {xs ys : List Arrival}

theorem Records.nil
    (s : DeviceStore) :
    s.Records [] s := by
  refine ⟨rfl, rfl, rfl, ?_, ?_⟩
  · intro token
    exact Option.map_id'.symm
  · intro hardwareId
    exact ⟨[], (List.append_nil _).symm, .nil⟩

/- Arrivals change nothing but events and states of use. -/
theorem Records.alike
    (hRecords : s.Records xs s') :
    s.Alike s' := by
  refine ⟨hRecords.devices, hRecords.commands,
    hRecords.groups, ?_⟩
  intro token
  rw [hRecords.assignments, Option.map_map]
  rfl

theorem Records.append
    (hFirst : s.Records xs s')
    (hSecond : s'.Records ys s'') :
    s.Records (xs ++ ys) s'' := by
  have hChanges : s'.changes = s.changes := by
    funext token x
    unfold changes tokenOf?
    rw [hFirst.devices]
  have hKeeps : s'.keeps = s.keeps := by
    funext hardwareId x
    simp only [keeps, hFirst.devices]
  have hKeptAs : s'.KeptAs = s.KeptAs := by
    funext x e
    simp only [KeptAs, hFirst.devices]
  refine ⟨hSecond.devices.trans hFirst.devices,
    hSecond.commands.trans hFirst.commands,
    hSecond.groups.trans hFirst.groups, ?_, ?_⟩
  · intro token
    rw [hSecond.assignments, hFirst.assignments,
      Option.map_map]
    congr 1
    funext a
    simp only [Function.comp, after, hChanges,
      List.filter_append, List.foldl_append]
  · intro hardwareId
    rcases hFirst.events hardwareId with ⟨new, hNew, hKept⟩
    rcases hSecond.events hardwareId with
      ⟨more, hMore, hKeptToo⟩
    rw [hKeeps, hKeptAs] at hKeptToo
    refine ⟨new ++ more, ?_, ?_⟩
    · rw [hMore, hNew, List.append_assoc]
    · rw [List.filter_append]
      exact List.rel_append hKept hKeptToo

end DeviceStore

------------------------------------------------------------
-- Up to Ids and Clocks
------------------------------------------------------------

/-
  The same event kept twice, each time under some id and at
  what its clock showed.  An event that bears no date of its
  own has that of its reception.
-/
structure StoredEvent.SameBut
    (clocks : List (Instant × Instant))
    (e e' : StoredEvent) : Prop where
  received : (e.receivedDate, e'.receivedDate) ∈ clocks
  dated : e'.eventDate = e.eventDate ∨
    (e.eventDate = e.receivedDate ∧
      e'.eventDate = e'.receivedDate)
  others : e' = { e with
    id := e'.id
    eventDate := e'.eventDate
    receivedDate := e'.receivedDate }

/- The same state, but for what clocks showed last. -/
structure AssignmentState.SameBut
    (clocks : List (Instant × Instant))
    (a a' : AssignmentState) : Prop where
  dated : a'.lastInteractionDate = a.lastInteractionDate ∨
    ∃ c ∈ clocks,
      a.lastInteractionDate = some c.1 ∧
        a'.lastInteractionDate = some c.2
  others : a' = { a with
    lastInteractionDate := a'.lastInteractionDate }

/- The same assignment, but for what clocks showed last. -/
structure DeviceAssignment.SameBut
    (clocks : List (Instant × Instant))
    (a a' : DeviceAssignment) : Prop where
  state : a.state.SameBut clocks a'.state
  others : a' = { a with state := a'.state }

/-
  The same store, but for the ids of the events that have
  come since and for what clocks showed when they came.
-/
structure DeviceStore.SameBut
    (clocks : List (Instant × Instant))
    (base s s' : DeviceStore) : Prop where
  devices : s'.devices = s.devices
  commands : s'.commands = s.commands
  groups : s'.groups = s.groups
  assignments : ∀ token,
    Option.Rel (DeviceAssignment.SameBut clocks)
      (s.assignments.get? token) (s'.assignments.get? token)
  events : ∀ hardwareId, ∃ new new',
    s.eventsOf hardwareId =
        base.eventsOf hardwareId ++ new ∧
      s'.eventsOf hardwareId =
        base.eventsOf hardwareId ++ new' ∧
      List.Forall₂ (StoredEvent.SameBut clocks) new new'

/- The same event, coming at what two clocks showed. -/
structure Arrival.Same
    (clocks : List (Instant × Instant))
    (x x' : Arrival) : Prop where
  now : (x.now, x'.now) ∈ clocks
  event : x'.event = x.event

section Compared

variable {clocks : List (Instant × Instant)}

theorem AssignmentState.SameBut.refl
    (a : AssignmentState) :
    a.SameBut clocks a :=
  ⟨.inl rfl, rfl⟩

/- The same event changes the same. -/
theorem Arrival.Same.change
    {x x' : Arrival}
    (hSame : x.Same clocks x')
    {a a' : AssignmentState}
    (hState : a.SameBut clocks a') :
    (Arrival.change a x).SameBut clocks
      (Arrival.change a' x') := by
  have hDated :
      some (x.event.eventDate.getD x'.now) =
          some (x.event.eventDate.getD x.now) ∨
        ∃ c ∈ clocks,
          some (x.event.eventDate.getD x.now) = some c.1 ∧
            some (x.event.eventDate.getD x'.now) =
              some c.2 := by
    cases x.event.eventDate with
    | none => exact .inr ⟨_, hSame.now, rfl, rfl⟩
    | some date => exact .inl rfl
  have hOthers := hState.others
  generalize a'.lastInteractionDate = date at hOthers
  subst hOthers
  simp only [Arrival.change, DeviceStore.stateAfter,
    DeviceStore.stored, hSame.event]
  cases x.event.kind with
  | measurements values => exact ⟨hDated, rfl⟩
  | location latitude longitude elevation => exact ⟨hDated, rfl⟩
  | alert level alertType message => exact ⟨hDated, rfl⟩
  | commandInvocation => exact ⟨hDated, rfl⟩
  | commandResponse => exact ⟨hDated, rfl⟩

/- The same event is kept in the same form. -/
theorem DeviceStore.KeptAs.sameBut
    {s : DeviceStore}
    {x x' : Arrival}
    {e e' : StoredEvent}
    (hSame : x.Same clocks x')
    (hKept : s.KeptAs x e)
    (hKept' : s.KeptAs x' e') :
    e.SameBut clocks e' := by
  rcases hKept with ⟨d, id, hDevice, rfl⟩
  rcases hKept' with ⟨d', id', hDevice', rfl⟩
  rw [hSame.event, hDevice] at hDevice'
  cases hDevice'
  rw [hSame.event]
  refine ⟨hSame.now, ?_, rfl⟩
  unfold DeviceStore.stored
  cases x.event.eventDate with
  | none => exact .inr ⟨rfl, rfl⟩
  | some date => exact .inl rfl

/- The same events are kept in the same form. -/
theorem DeviceStore.sameBut_of_keptAs
    {s : DeviceStore}
    {xs xs' : List Arrival}
    {new new' : List StoredEvent}
    (hSame : List.Forall₂ (Arrival.Same clocks) xs xs')
    (hKept : List.Forall₂ s.KeptAs xs new)
    (hKept' : List.Forall₂ s.KeptAs xs' new') :
    List.Forall₂ (StoredEvent.SameBut clocks) new new' := by
  induction hSame generalizing new new' with
  | nil =>
      cases hKept
      cases hKept'
      exact .nil
  | cons hFirst _ ih =>
      cases hKept with
      | cons hKeptFirst hKeptRest =>
          cases hKept' with
          | cons hKeptFirst' hKeptRest' =>
              exact .cons
                (hKeptFirst.sameBut hFirst hKeptFirst')
                (ih hKeptRest hKeptRest')

/-
  Two stores are the same if the same arrivals come to each
  device, and to each use, in the same order.
-/
theorem DeviceStore.Records.sameBut
    {s t t' : DeviceStore}
    {xs xs' : List Arrival}
    (hRecords : s.Records xs t)
    (hRecords' : s.Records xs' t')
    (hKeeps : ∀ hardwareId,
      List.Forall₂ (Arrival.Same clocks)
        (xs.filter (s.keeps hardwareId))
        (xs'.filter (s.keeps hardwareId)))
    (hChanges : ∀ token,
      List.Forall₂ (Arrival.Same clocks)
        (xs.filter (s.changes token))
        (xs'.filter (s.changes token))) :
    SameBut clocks s t t' := by
  refine ⟨hRecords'.devices.trans hRecords.devices.symm,
    hRecords'.commands.trans hRecords.commands.symm,
    hRecords'.groups.trans hRecords.groups.symm, ?_, ?_⟩
  · intro token
    rw [hRecords.assignments, hRecords'.assignments]
    cases s.assignments.get? token with
    | none => exact .none
    | some a =>
        refine .some ⟨?_, rfl⟩
        exact List.rel_foldl
          (fun _ _ hState _ _ hSame => hSame.change hState)
          (.refl a.state) (hChanges token)
  · intro hardwareId
    rcases hRecords.events hardwareId with ⟨new, hNew, hKept⟩
    rcases hRecords'.events hardwareId with
      ⟨new', hNew', hKept'⟩
    exact ⟨new, new', hNew, hNew',
      sameBut_of_keptAs (hKeeps hardwareId) hKept hKept'⟩

/- That is so if the same arrivals come in the same order. -/
theorem DeviceStore.Records.sameBut_of_same
    {s t t' : DeviceStore}
    {xs xs' : List Arrival}
    (hRecords : s.Records xs t)
    (hRecords' : s.Records xs' t')
    (hSame : List.Forall₂ (Arrival.Same clocks) xs xs') :
    SameBut clocks s t t' := by
  refine hRecords.sameBut hRecords' ?_ ?_
  · intro hardwareId
    refine List.rel_filter ?_ hSame
    intro x x' hx
    simp only [keeps, hx.event]
  · intro token
    refine List.rel_filter ?_ hSame
    intro x x' hx
    simp only [changes, hx.event]

end Compared

end DeviceHub
