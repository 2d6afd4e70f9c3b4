import DeviceHub.Json.Printer
import DeviceHub.Proofs.Codec.Envelope
import DeviceHub.Proofs.Json.Members

/-
  Batches of events as they are written: a payload is
  rejected as a whole, or every entry becomes one event, in
  order.

  What the transport tells has no say in whether a payload is
  accepted, and shows in the dates of undated events only.
  That is so for batches and for envelopes.

  Key definitions include:
    * `JsonBatch.Section`
    * `JsonBatch.Written`
    * `JsonBatch.Written.Describes`
    * `DecodedEvent.SameButDate`

  Main statements:
    * `JsonBatch.exists_written`
    * `JsonBatch.context_only_dates`
-/

namespace DeviceHub

namespace JsonBatch

open Json

------------------------------------------------------------
-- Entries as They Are Written
------------------------------------------------------------

/- The kinds of entries of a batch. -/
inductive Section where
  | location
  | measurements
  | alert

/-
  What an entry of a kind says by its own fields.  The type
  of an alert stands under one of two names, not under both.
-/
inductive Section.Says
    (x : Document) : Section → EventKind → Prop where
  | location
      {latitude longitude : Binary64}
      {elevation : Option Binary64}
      (hLatitude : (x.field? "latitude").bind
        (Reader.real .root) = some latitude)
      (hLongitude : (x.field? "longitude").bind
        (Reader.real .root) = some longitude)
      (hElevation : (Reader.option .real).orElse none
        (x.field? "elevation") = some elevation) :
      Says x .location (.location latitude longitude elevation)
  | measurements
      {values : Dict Binary64}
      (hValues : (x.field? "measurements").bind
        (Reader.dict .real .root) = some values) :
      Says x .measurements (.measurements values)
  | alert
      {level : AlertLevel}
      {type message key other : String}
      (hLevel : (x.field? "level").bind
        (AlertLevel.reader .root) = some level)
      (hKeys : key = "type" ∧ other = "alertType" ∨
        key = "alertType" ∧ other = "type")
      (hType : (x.field? key).bind (Reader.text .root) =
        some type)
      (hOther : x.field? other = none)
      (hMessage : (x.field? "message").bind
        (Reader.text .root) = some message) :
      Says x .alert (.alert level type message)

/- An entry without a date: it has none, or it is null. -/
def IsUndated
    (x : Document) : Prop :=
  x.field? "eventDate" = none ∨
    x.field? "eventDate" = some .null

/- What is read of an entry is what is written there. -/
structure Entry.IsOf
    (e : Entry)
    (s : Section)
    (x : Document) : Prop where
  kind : s.Says x e.kind
  eventDate : (Reader.option .instant).orElse none
    (x.field? "eventDate") = some e.eventDate
  metadata : Reader.textDict.orElse .empty
    (x.field? "metadata") = some e.metadata
  updateState : Reader.bool.orElse false
    (x.field? "updateState") = some e.updateState

/- The fields that all entries share. -/
theorem isOf_of_complete?
    {s : Section}
    {x : Document}
    {p : Place}
    {rest : List (String × Document)}
    (hRest : ∀ name ∈ ["eventDate", "metadata", "updateState"],
      rest.lookup name = x.field? name)
    {kind : EventKind}
    (hKind : s.Says x kind)
    {e : Entry}
    (hEntry : Entry.complete? p rest kind = some e) :
    e.IsOf s x := by
  simp only [Entry.complete?, Option.bind_eq_bind,
    Option.bind_eq_some_iff, Option.some.injEq,
    Members.optionalDefault] at hEntry
  rcases hEntry with
    ⟨m, hMembers, date, hDate, metadata, hMetadata, updates,
      hUpdates, rfl⟩
  have hPart : ∀ name ∈ ["eventDate", "metadata",
      "updateState"],
      m.found.lookup name = x.field? name := by
    intro name hName
    rw [Members.lookup_of_ofHeld? hMembers hName]
    exact hRest name hName
  rw [Members.withDefault_eq (fun _ => rfl)
    (hPart "eventDate" (by simp))] at hDate
  rw [Members.withDefault_eq (fun _ => rfl)
    (hPart "metadata" (by simp))] at hMetadata
  rw [Members.withDefault_eq (fun _ => rfl)
    (hPart "updateState" (by simp))] at hUpdates
  exact ⟨hKind, hDate, hMetadata, hUpdates⟩

theorem isOf_measurements
    {p : Place}
    {x : Document}
    {e : Entry}
    (hEntry : measurementsEntry p x = some e) :
    e.IsOf .measurements x := by
  simp only [measurementsEntry, Option.bind_eq_bind,
    Option.bind_eq_some_iff, Prod.exists] at hEntry
  rcases hEntry with
    ⟨m, rest, hMembers, values, hValues, hEntry⟩
  rcases Members.lookup_of_flattened? hMembers with
    ⟨-, hOwn, hRest⟩
  rw [Members.required_eq (fun _ => rfl)
    (hOwn "measurements" (by simp))] at hValues
  refine isOf_of_complete? ?_ (.measurements hValues) hEntry
  intro name hName
  exact hRest name (by revert name; decide)

theorem isOf_location
    {p : Place}
    {x : Document}
    {e : Entry}
    (hEntry : locationEntry p x = some e) :
    e.IsOf .location x := by
  simp only [locationEntry, Option.bind_eq_bind,
    Option.bind_eq_some_iff, Prod.exists,
    Members.optionalDefault] at hEntry
  rcases hEntry with
    ⟨m, rest, hMembers, latitude, hLatitude, longitude,
      hLongitude, elevation, hElevation, hEntry⟩
  rcases Members.lookup_of_flattened? hMembers with
    ⟨-, hOwn, hRest⟩
  rw [Members.required_eq (fun _ => rfl)
    (hOwn "latitude" (by simp))] at hLatitude
  rw [Members.required_eq (fun _ => rfl)
    (hOwn "longitude" (by simp))] at hLongitude
  rw [Members.withDefault_eq (fun _ => rfl)
    (hOwn "elevation" (by simp))] at hElevation
  refine isOf_of_complete? ?_
    (.location hLatitude hLongitude hElevation) hEntry
  intro name hName
  exact hRest name (by revert name; decide)

/- A text that may be left out is there if its field is. -/
theorem eq_some_of_textOrNone
    {part : Option Document}
    {t : Option String}
    (hText : Reader.orElse
      (fun p d => (Reader.text p d).map some) none part =
        some t) :
    (∀ s, t = some s →
        part.bind (Reader.text .root) = some s) ∧
      (t = none → part = none) := by
  cases part with
  | none =>
      cases hText
      exact ⟨fun s hSome => (nomatch hSome), fun _ => rfl⟩
  | some d =>
      rcases Option.map_eq_some_iff.1 hText with ⟨s, hRead, rfl⟩
      refine ⟨?_, fun hNone => (nomatch hNone)⟩
      intro s' hSame
      cases hSame
      exact hRead

/- A level is read the same wherever it is not held. -/
theorem level_reader_eq
    {p : Place}
    (hPlace : p.held = false)
    (d : Document) :
    AlertLevel.reader p d = AlertLevel.reader .root d := by
  rcases p with ⟨depth, held⟩
  cases hPlace
  rfl

theorem isOf_alert
    {p : Place}
    (hPlace : p.held = false)
    {x : Document}
    {e : Entry}
    (hEntry : alertEntry p x = some e) :
    e.IsOf .alert x := by
  simp only [alertEntry, Option.bind_eq_bind,
    Option.bind_eq_some_iff, Prod.exists] at hEntry
  rcases hEntry with
    ⟨m, rest, hMembers, level, hLevel, type, hType,
      alertType, hAlertType, message, hMessage, hEntry⟩
  rcases Members.lookup_of_flattened? hMembers with
    ⟨hHere, hOwn, hRest⟩
  have hNotHeld : m.place.held = false := by
    rw [hHere]
    exact hPlace
  rw [Members.required_eq (level_reader_eq hNotHeld)
    (hOwn "level" (by simp))] at hLevel
  rw [Members.withDefault_eq (fun _ => rfl)
    (hOwn "type" (by simp))] at hType
  rw [Members.withDefault_eq (fun _ => rfl)
    (hOwn "alertType" (by simp))] at hAlertType
  rw [Members.required_eq (fun _ => rfl)
    (hOwn "message" (by simp))] at hMessage
  have hShared : ∀ name ∈ ["eventDate", "metadata",
      "updateState"], rest.lookup name = x.field? name := by
    intro name hName
    exact hRest name (by revert name; decide)
  have hFirst := eq_some_of_textOrNone hType
  have hSecond := eq_some_of_textOrNone hAlertType
  cases type with
  | none =>
      cases alertType with
      | none => cases hEntry
      | some t =>
          exact isOf_of_complete? hShared
            (.alert hLevel (.inr ⟨rfl, rfl⟩)
              (hSecond.1 t rfl) (hFirst.2 rfl) hMessage) hEntry
  | some t =>
      cases alertType with
      | none =>
          exact isOf_of_complete? hShared
            (.alert hLevel (.inl ⟨rfl, rfl⟩)
              (hFirst.1 t rfl) (hSecond.2 rfl) hMessage) hEntry
      | some t' => cases hEntry

------------------------------------------------------------
-- Batches as They Are Written
------------------------------------------------------------

/- A batch whose entries have not been read. -/
structure Written where
  hardwareId : String
  originator : Option String
  measurements : List Document
  locations : List Document
  alerts : List Document

namespace Written

/- The names of the members of a batch. -/
def names : List String :=
  ["hardwareId", "originator", "measurements", "locations",
    "alerts"]

/- What a document says of a batch; all may be left out. -/
structure IsIn
    (w : Written)
    (d : Document) : Prop where
  hardwareId : Reader.text.orElse ""
    (d.member? names "hardwareId") = some w.hardwareId
  originator : (Reader.option .text).orElse none
    (d.member? names "originator") = some w.originator
  measurements : (Reader.list .document).orElse []
    (d.member? names "measurements") = some w.measurements
  locations : (Reader.list .document).orElse []
    (d.member? names "locations") = some w.locations
  alerts : (Reader.list .document).orElse []
    (d.member? names "alerts") = some w.alerts

/- The entries in the order of their events. -/
def entries
    (w : Written) : List (Section × Document) :=
  w.locations.map (.location, ·) ++
    w.measurements.map (.measurements, ·) ++
    w.alerts.map (.alert, ·)

/-
  The event of an entry says what the batch and the entry
  say, and what the transport tells if there is no date.
-/
structure Describes
    (w : Written)
    (context : Context)
    (s : Section)
    (x : Document)
    (e : DecodedEvent) : Prop where
  hardwareId : e.hardwareId = w.hardwareId
  originator : e.originator = w.originator
  kind : s.Says x e.kind
  metadata : Reader.textDict.orElse .empty
    (x.field? "metadata") = some e.metadata
  updateState : Reader.bool.orElse false
    (x.field? "updateState") = some e.updateState
  dated : ¬ IsUndated x → ∃ d i,
    x.field? "eventDate" = some d ∧
      Reader.instant .root d = some i ∧
      e.eventDate = some i
  undated : IsUndated x → e.eventDate = context.enqueueTime?

end Written

/- The items of a member, if there is one, are its entries. -/
theorem exists_items
    {s : Section}
    {m : Members}
    {r : Reader Entry}
    (hEntry : ∀ x e, r m.place.inside x = some e →
      e.IsOf s x)
    {name : String}
    {part : Option Document}
    (hPart : m.found.lookup name = part)
    {read : List Entry}
    (hRead : m.withDefault name [] (.list r) = some read) :
    ∃ items,
      (Reader.list .document).orElse [] part = some items ∧
        List.Forall₂ (fun y e => Entry.IsOf e y.1 y.2)
          (items.map (s, ·)) read := by
  unfold Members.withDefault at hRead
  rw [hPart] at hRead
  cases part with
  | none =>
      cases hRead
      exact ⟨[], rfl, .nil⟩
  | some d =>
      rcases Reader.list_eq_some_iff.1 hRead with
        ⟨items, rfl, hItems⟩
      refine ⟨items, Reader.list_document _ items, ?_⟩
      rw [List.forall₂_map_left_iff]
      exact hItems.imp hEntry

/- A batch that is read is written in the payload. -/
theorem exists_written
    {payload : List UInt8}
    {b : JsonBatch}
    (hRead : reader.ofBytes payload = some b) :
    ∃ d w, Document.parse? payload = some d ∧
      Written.IsIn w d ∧
      w.hardwareId = b.hardwareId ∧
      w.originator = b.originator ∧
      List.Forall₂ (fun y e => Entry.IsOf e y.1 y.2)
        w.entries b.entries := by
  rcases Option.bind_eq_some_iff.1 hRead with
    ⟨d, hDocument, hBatch⟩
  simp only [reader, Option.bind_eq_bind,
    Option.bind_eq_some_iff, Option.some.injEq,
    Members.optionalDefault] at hBatch
  rcases hBatch with
    ⟨m, hMembers, hardwareId, hId, originator, hOriginator,
      measurements, hMeasurements, locations, hLocations,
      alerts, hAlerts, rfl⟩
  have hPart : ∀ name ∈ Written.names,
      m.found.lookup name = d.member? Written.names name :=
    fun name hName => Members.lookup_of_of? hMembers hName
  rw [Members.withDefault_eq (fun _ => rfl)
    (hPart "hardwareId" (by decide))] at hId
  rw [Members.withDefault_eq (fun _ => rfl)
    (hPart "originator" (by decide))] at hOriginator
  rcases exists_items
      (fun _ _ hEntry => isOf_measurements hEntry)
      (hPart "measurements" (by decide)) hMeasurements with
    ⟨measured, hMeasured, hFirst⟩
  rcases exists_items
      (fun _ _ hEntry => isOf_location hEntry)
      (hPart "locations" (by decide)) hLocations with
    ⟨located, hLocated, hSecond⟩
  have hNotHeld : m.place.inside.held = false := by
    rw [Members.place_of_of? hMembers]
    rfl
  rcases exists_items
      (fun _ _ hEntry => isOf_alert hNotHeld hEntry)
      (hPart "alerts" (by decide)) hAlerts with
    ⟨alerted, hAlerted, hThird⟩
  refine ⟨d, ⟨hardwareId, originator, measured, located,
    alerted⟩, hDocument,
    ⟨hId, hOriginator, hMeasured, hLocated, hAlerted⟩, rfl,
    rfl, ?_⟩
  exact List.rel_append (List.rel_append hSecond hFirst) hThird

/- An entry has no date of its own, or one that is read. -/
theorem Entry.IsOf.date_cases
    {e : Entry}
    {s : Section}
    {x : Document}
    (hEntry : e.IsOf s x) :
    (IsUndated x ∧ e.eventDate = none) ∨
    (¬ IsUndated x ∧ ∃ d i,
      x.field? "eventDate" = some d ∧
        Reader.instant .root d = some i ∧
        e.eventDate = some i) := by
  have hDate := hEntry.eventDate
  unfold IsUndated
  cases hField : x.field? "eventDate" with
  | none =>
      rw [hField] at hDate
      exact .inl ⟨.inl rfl, (Option.some.inj hDate).symm⟩
  | some d =>
      rw [hField] at hDate
      by_cases hNull : d = .null
      · subst hNull
        exact .inl ⟨.inr rfl, (Option.some.inj hDate).symm⟩
      · change Reader.option .instant .root d = _ at hDate
        rw [Reader.option_of_ne_null hNull] at hDate
        rcases Option.map_eq_some_iff.1 hDate with
          ⟨i, hInstant, hSame⟩
        refine .inr ⟨?_, d, i, rfl, hInstant, hSame.symm⟩
        rintro (hNone | hSome)
        · cases hNone
        · exact hNull (Option.some.inj hSome)

/- The event of an entry describes what is written. -/
theorem describes_event
    {w : Written}
    {b : JsonBatch}
    (hId : w.hardwareId = b.hardwareId)
    (hOriginator : w.originator = b.originator)
    (context : Context)
    {s : Section}
    {x : Document}
    {e : Entry}
    (hEntry : e.IsOf s x) :
    w.Describes context s x
      (b.event context.enqueueTime? e) := by
  refine ⟨hId.symm, hOriginator.symm, hEntry.kind,
    hEntry.metadata, hEntry.updateState, ?_, ?_⟩
  · intro hDated
    rcases hEntry.date_cases with
      ⟨hUndated, -⟩ | ⟨-, d, i, hField, hInstant, hDate⟩
    · exact absurd hUndated hDated
    · refine ⟨d, i, hField, hInstant, ?_⟩
      simp only [event, hDate, Option.some_or]
  · intro hUndated
    rcases hEntry.date_cases with ⟨-, hNone⟩ | ⟨hDated, -⟩
    · simp only [event, hNone, Option.none_or]
    · exact absurd hUndated hDated

end JsonBatch

------------------------------------------------------------
-- What the Transport Tells
------------------------------------------------------------

/- Two events that differ in their dates at most. -/
def DecodedEvent.SameButDate
    (e e' : DecodedEvent) : Prop :=
  { e with eventDate := none } =
    { e' with eventDate := none }

/-
  Two results of decoding agree: both are errors, or the
  events are as many and differ in dates at most, and only
  at places that are open.
-/
structure SameButDates
    (isOpen : Nat → Prop)
    (r r' : Except CodecError (List DecodedEvent)) :
    Prop where
  rejected : (∃ e, r = .error e) ↔ ∃ e, r' = .error e
  length : ∀ events events',
    r = .ok events → r' = .ok events' →
      events.length = events'.length
  events : ∀ events events',
    r = .ok events → r' = .ok events' →
      ∀ i e e', events[i]? = some e → events'[i]? = some e' →
        e.SameButDate e' ∧
          (e.eventDate ≠ e'.eventDate → isOpen i)

/- A rejection agrees with itself. -/
theorem sameButDates_error
    (isOpen : Nat → Prop)
    (e : CodecError) :
    SameButDates isOpen (.error e) (.error e) :=
  ⟨Iff.rfl, fun _ _ hOk => (nomatch hOk),
    fun _ _ hOk => (nomatch hOk)⟩

/- Lists of events agree if their events do, in order. -/
theorem sameButDates_ok
    {isOpen : Nat → Prop}
    {events events' : List DecodedEvent}
    (hLength : events.length = events'.length)
    (hEvents : ∀ i e e', events[i]? = some e →
      events'[i]? = some e' →
        e.SameButDate e' ∧
          (e.eventDate ≠ e'.eventDate → isOpen i)) :
    SameButDates isOpen (.ok events) (.ok events') := by
  refine ⟨?_, ?_, ?_⟩
  · constructor
    · rintro ⟨e, hError⟩
      cases hError
    · rintro ⟨e, hError⟩
      cases hError
  · intro es es' hFirst hSecond
    cases hFirst
    cases hSecond
    exact hLength
  · intro es es' hFirst hSecond
    cases hFirst
    cases hSecond
    exact hEvents

namespace Envelope

/- The envelope of a payload has no time that is a date. -/
def UndatedIn
    (payload : List UInt8) : Prop :=
  ∃ e rest, ofBytes? payload = some (e, rest) ∧
    ∀ n (i : Instant), e.eventDateMillis = some n →
      ¬ i.AtMillis n

/- What the transport tells shows in an envelope's date. -/
theorem sameButDates_decode
    (payload : List UInt8)
    (context context' : Context) :
    SameButDates (fun _ => UndatedIn payload)
      (decode payload context) (decode payload context') := by
  unfold decode
  cases hRead : ofBytes? payload with
  | none => exact sameButDates_error _ _
  | some r =>
      rcases r with ⟨e, rest⟩
      dsimp only
      by_cases hBlank : Text.isBlank e.hardwareId = true
      · rw [if_pos hBlank, if_pos hBlank]
        exact sameButDates_error _ _
      · rw [if_neg hBlank, if_neg hBlank]
        refine sameButDates_ok rfl ?_
        intro i x x' hx hx'
        rw [List.getElem?_singleton,
          Option.ite_none_right_eq_some] at hx hx'
        rcases hx with ⟨-, hx⟩
        rcases hx' with ⟨-, hx'⟩
        cases hx
        cases hx'
        refine ⟨rfl, ?_⟩
        intro hDates
        refine ⟨e, rest, hRead, ?_⟩
        intro n i hMillis hAt
        have hFirst := (conveys_event e context).dated n i
          hMillis hAt
        have hSecond := (conveys_event e context').dated n i
          hMillis hAt
        exact hDates (hFirst.trans hSecond.symm)

end Envelope

namespace JsonBatch

/- The entry at a place of a payload has no date. -/
def UndatedAt
    (payload : List UInt8)
    (i : Nat) : Prop :=
  ∃ d w s x, Json.Document.parse? payload = some d ∧
    Written.IsIn w d ∧
    w.entries[i]? = some (s, x) ∧ IsUndated x

/- It shows in the dates of entries that have none. -/
theorem sameButDates_decode
    (payload : List UInt8)
    (context context' : Context) :
    SameButDates (UndatedAt payload)
      (decode payload context) (decode payload context') := by
  unfold decode
  cases hRead : reader.ofBytes payload with
  | none => exact sameButDates_error _ _
  | some b =>
      dsimp only
      by_cases hBlank : Text.isBlank b.hardwareId = true
      · rw [if_pos hBlank, if_pos hBlank]
        exact sameButDates_error _ _
      · rw [if_neg hBlank, if_neg hBlank]
        refine sameButDates_ok (by simp) ?_
        intro i e e' he he'
        rw [List.getElem?_map, Option.map_eq_some_iff]
          at he he'
        rcases he with ⟨entry, hEntry, rfl⟩
        rcases he' with ⟨entry', hEntry', rfl⟩
        rw [hEntry] at hEntry'
        cases hEntry'
        refine ⟨rfl, ?_⟩
        intro hDates
        rcases exists_written hRead with
          ⟨d, w, hDocument, hWritten, -, -, hEntries⟩
        rcases List.getElem?_eq_some_iff.1 hEntry with
          ⟨hRoom, hHere⟩
        have hPlace : i < w.entries.length := by
          rw [hEntries.length_eq]
          exact hRoom
        have hOf := hEntries.get hPlace hRoom
        rw [List.get_eq_getElem, List.get_eq_getElem, hHere]
          at hOf
        refine ⟨d, w, _, _, hDocument, hWritten,
          List.getElem?_eq_getElem hPlace, ?_⟩
        rcases hOf.date_cases with
          ⟨hUndated, -⟩ | ⟨-, _, _, -, -, hDate⟩
        · exact hUndated
        · refine absurd ?_ hDates
          simp only [event, hDate, Option.some_or]

/-
  Whatever the transport tells, a batch is rejected as a
  whole or every entry becomes one event: locations first,
  then measurements, then alerts, each in their order.  For
  any two tellings, batches and envelopes alike are accepted
  with both or with none, and their events differ only in
  dates that the payload does not give.
-/
theorem context_only_dates
    (payload : List UInt8) :
    (∀ context,
      (∃ detail, Decoder.jsonBatch.decode payload context =
        .error (.malformedPayload detail)) ∨
      ∃ d w events,
        Json.Document.parse? payload = some d ∧
          Written.IsIn w d ∧
          Text.isBlank w.hardwareId = false ∧
          Decoder.jsonBatch.decode payload context =
            .ok events ∧
          List.Forall₂ (fun y e =>
              w.Describes context y.1 y.2 e)
            w.entries events) ∧
      (∀ context context',
        SameButDates (UndatedAt payload)
          (Decoder.jsonBatch.decode payload context)
          (Decoder.jsonBatch.decode payload context')) ∧
      ∀ context context',
        SameButDates (fun _ => Envelope.UndatedIn payload)
          (Decoder.binary.decode payload context)
          (Decoder.binary.decode payload context') := by
  refine ⟨?_, sameButDates_decode payload,
    Envelope.sameButDates_decode payload⟩
  intro context
  change (∃ detail, decode payload context = _) ∨
    ∃ d w events, _ ∧ _ ∧ _ ∧
      decode payload context = .ok events ∧ _
  unfold decode
  cases hRead : reader.ofBytes payload with
  | none => exact .inl ⟨_, rfl⟩
  | some b =>
      dsimp only
      by_cases hBlank : Text.isBlank b.hardwareId = true
      · rw [if_pos hBlank]
        exact .inl ⟨_, rfl⟩
      · rw [if_neg hBlank]
        rcases exists_written hRead with
          ⟨d, w, hDocument, hWritten, hId, hOriginator,
            hEntries⟩
        refine .inr ⟨d, w, _, hDocument, hWritten, ?_, rfl, ?_⟩
        · rw [hId]
          exact Bool.eq_false_iff.2 hBlank
        · rw [List.forall₂_map_right_iff]
          exact hEntries.imp fun _ _ hEntry =>
            describes_event hId hOriginator context hEntry

/- A location whose date is null goes before a dated alert. -/
example :
    let location := Json.record
      [("latitude", .int 1), ("longitude", .int 2),
        ("eventDate", .null)]
    let alert := Json.record
      [("level", .text "Info"), ("type", .text "heat"),
        ("message", .text ""),
        ("eventDate", .text "1970-01-01T00:00:09Z")]
    let batch := Json.record
      [("hardwareId", .text "dev-7"), ("alerts", .list [alert]),
        ("locations", .list [location])]
    (decode (Json.utf8 batch.compact)
      (.ofList [("enqueueTime", "1000")])).toOption.map
        (·.map fun e => (e.kind.name, e.eventDate)) =
      some [("location", some ⟨1, 0⟩),
        ("alert", some ⟨9, 0⟩)] := by
  decide +kernel

end JsonBatch

end DeviceHub
