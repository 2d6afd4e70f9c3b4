import DeviceHub.Codec.Registry
import DeviceHub.Proofs.Codec.Wire

/-
  Envelopes through their bytes: what is written is read
  back, whatever follows it, and no strict part of it is an
  envelope.

  Key definitions include:
    * `Instant.AtMillis`
    * `Envelope.Fits`
    * `Envelope.Conveys`

  Main statements:
    * `Instant.ofMillis?_eq_some_iff`
    * `Envelope.spells`
    * `Envelope.decode_whole_or_nothing`
-/

namespace DeviceHub

------------------------------------------------------------
-- Dates
------------------------------------------------------------

namespace Instant

/-
  The instant a number of milliseconds after 1970, if the
  calendar has a day for it.
-/
structure AtMillis
    (millis : Int)
    (i : Instant) : Prop where
  representable : i.inCalendar = true
  noLeap : i.nano < 1000000000
  whole : i.nano % 1000000 = 0
  millis : i.toMillis = millis

theorem ofMillis?_eq_some_iff
    {millis : Int}
    {i : Instant} :
    ofMillis? millis = some i ↔ i.AtMillis millis := by
  have hDiv : millis.fdiv 1000 = millis / 1000 :=
    Int.fdiv_eq_ediv_of_nonneg millis (by decide)
  have hMod : millis.fmod 1000 = millis % 1000 :=
    Int.fmod_eq_emod_of_nonneg millis (by decide)
  unfold ofMillis?
  simp only [hDiv, hMod]
  constructor
  · intro hSome
    rcases Option.ite_none_right_eq_some.1 hSome with
      ⟨hDay, hHere⟩
    cases hHere
    refine ⟨hDay, ?_, ?_, ?_⟩
    · dsimp only
      omega
    · exact Nat.mul_mod_left _ _
    · simp only [toMillis, Int.ofNat_eq_natCast]
      omega
  · intro hAt
    rcases i with ⟨second, nano⟩
    have hMillis := hAt.millis
    have hNano := hAt.noLeap
    have hWhole := hAt.whole
    simp only [toMillis, Int.ofNat_eq_natCast]
      at hMillis hNano hWhole
    have hSecond : millis / 1000 = second := by omega
    have hRest : (millis % 1000).toNat * 1000000 = nano := by
      omega
    rw [hSecond, hRest, if_pos hAt.representable]

end Instant

namespace Envelope

------------------------------------------------------------
-- Messages
------------------------------------------------------------

namespace Message

/- A message whose texts and maps have lengths that fit. -/
def Fits : Message → Prop
  | measurements values =>
      values.size < Word.count 64 ∧
        ∀ e ∈ values.entries, Wire.Fits e.1
  | location _ => True
  | alert summary =>
      Wire.Fits summary.alertType ∧ Wire.Fits summary.message
  | acknowledge originating response =>
      Wire.Fits originating ∧ Wire.Fits response

/- A level is known by its place. -/
theorem spells_level
    (l : AlertLevel) :
    Wire.Spells level (putLevel l) l := by
  have hRoom : AlertLevel.all.idxOf l < Word.count (8 * 4) := by
    cases l <;> decide
  have hPlace :
      AlertLevel.all[AlertLevel.all.idxOf l]? = some l := by
    cases l <;> rfl
  rw [← List.append_nil (putLevel l)]
  refine Wire.Spells.bind (Wire.spells_nat hRoom) ?_
  simp only [hPlace]
  exact .done l

/- A message: its kind says which fields follow. -/
theorem spells
    {m : Message}
    (hFits : m.Fits) :
    Wire.Spells ofBytes? m.toBytes m := by
  cases m with
  | measurements values =>
      refine Wire.Spells.bind
        (Wire.spells_nat
          (by decide : 0 < Word.count (8 * 4))) ?_
      rw [← List.append_nil (Wire.putDict _ _)]
      refine Wire.Spells.bind (Wire.spells_dict hFits.1 ?_)
        (.done (measurements values))
      intro e hMem
      exact ⟨hFits.2 e hMem, Wire.spells_real e.2⟩
  | location position =>
      simp only [toBytes, List.append_assoc]
      refine Wire.Spells.bind
        (Wire.spells_nat
          (by decide : 1 < Word.count (8 * 4))) ?_
      refine Wire.Spells.bind (Wire.spells_real _) ?_
      refine Wire.Spells.bind (Wire.spells_real _) ?_
      rw [← List.append_nil (Wire.putOption _ _)]
      refine Wire.Spells.bind
        (Wire.spells_option fun x _ => Wire.spells_real x)
        (.done (location position))
  | alert summary =>
      simp only [toBytes, List.append_assoc]
      refine Wire.Spells.bind
        (Wire.spells_nat
          (by decide : 2 < Word.count (8 * 4))) ?_
      refine Wire.Spells.bind (spells_level _) ?_
      refine Wire.Spells.bind (Wire.spells_text hFits.1) ?_
      rw [← List.append_nil (Wire.putText _)]
      exact Wire.Spells.bind (Wire.spells_text hFits.2)
        (.done (alert summary))
  | acknowledge originating response =>
      simp only [toBytes, List.append_assoc]
      refine Wire.Spells.bind
        (Wire.spells_nat
          (by decide : 3 < Word.count (8 * 4))) ?_
      refine Wire.Spells.bind (Wire.spells_text hFits.1) ?_
      rw [← List.append_nil (Wire.putText _)]
      exact Wire.Spells.bind (Wire.spells_text hFits.2)
        (.done (acknowledge originating response))

end Message

------------------------------------------------------------
-- Envelopes
------------------------------------------------------------

/-
  An envelope of sixty-four bits: every length, and the time
  if there is one, has room in a word.
-/
structure Fits
    (e : Envelope) : Prop where
  hardwareId : Wire.Fits e.hardwareId
  originator : ∀ s ∈ e.originator, Wire.Fits s
  millis : ∀ n ∈ e.eventDateMillis, Word.isSigned 64 n = true
  message : e.message.Fits

theorem spells
    {e : Envelope}
    (hFits : e.Fits) :
    Wire.Spells ofBytes? e.toBytes e := by
  simp only [toBytes, List.append_assoc]
  refine Wire.Spells.bind (Wire.spells_text hFits.hardwareId)
    ?_
  refine Wire.Spells.bind (Wire.spells_option fun s hMem =>
    Wire.spells_text (hFits.originator s hMem)) ?_
  refine Wire.Spells.bind (Wire.spells_option fun n hMem =>
    Wire.spells_int64 (hFits.millis n hMem)) ?_
  refine Wire.Spells.bind (Wire.spells_bool _) ?_
  rw [← List.append_nil e.message.toBytes]
  exact Wire.Spells.bind (Message.spells hFits.message)
    (.done e)

------------------------------------------------------------
-- Events
------------------------------------------------------------

/- The event says what the envelope says, and no more. -/
structure Conveys
    (e : Envelope)
    (context : Context)
    (event : DecodedEvent) : Prop where
  hardwareId : event.hardwareId = e.hardwareId
  originator : event.originator = e.originator
  updateState : event.updateState = e.updateState
  metadata : event.metadata = .empty
  measurements : ∀ values,
    e.message = .measurements values →
      event.kind = .measurements values
  location : ∀ latitude longitude elevation,
    e.message = .location ⟨latitude, longitude, elevation⟩ →
      event.kind = .location latitude longitude elevation
  alert : ∀ level alertType message,
    e.message = .alert ⟨level, alertType, message⟩ →
      event.kind = .alert level alertType message
  acknowledge : ∀ originating response,
    e.message = .acknowledge originating response →
      event.kind = .commandResponse originating none response
  dated : ∀ n (i : Instant), e.eventDateMillis = some n →
    i.AtMillis n → event.eventDate = some i
  undated : (∀ n (i : Instant),
      e.eventDateMillis = some n → ¬ i.AtMillis n) →
    event.eventDate = context.enqueueTime?

theorem conveys_event
    (e : Envelope)
    (context : Context) :
    e.Conveys context (e.event context.enqueueTime?) := by
  constructor
  case hardwareId => rfl
  case originator => rfl
  case updateState => rfl
  case metadata => rfl
  case measurements =>
    intro values hMessage
    simp only [event, hMessage, Message.kind]
  case location =>
    intro latitude longitude elevation hMessage
    simp only [event, hMessage, Message.kind]
  case alert =>
    intro level alertType message hMessage
    simp only [event, hMessage, Message.kind]
  case acknowledge =>
    intro originating response hMessage
    simp only [event, hMessage, Message.kind]
  case dated =>
    intro n i hMillis hAt
    have hDate := Instant.ofMillis?_eq_some_iff.2 hAt
    simp only [event, hMillis, Option.bind_some, hDate,
      Option.some_or]
  case undated =>
    intro hNever
    have hDate :
        e.eventDateMillis.bind Instant.ofMillis? = none := by
      rw [Option.bind_eq_none_iff]
      intro n hMillis
      rw [Option.eq_none_iff_forall_ne_some]
      intro i hSome
      exact hNever n i hMillis
        (Instant.ofMillis?_eq_some_iff.1 hSome)
    simp only [event, hDate, Option.none_or]

/-
  The bytes of an envelope decode to its one event, whatever
  follows them, and nothing shorter decodes at all.
-/
theorem decode_whole_or_nothing
    {e : Envelope}
    (hFits : e.Fits)
    (context : Context) :
    (Text.isBlank e.hardwareId = false → ∀ rest, ∃ event,
      Decoder.binary.decode (e.toBytes ++ rest) context =
          .ok [event] ∧
        e.Conveys context event) ∧
      (Text.isBlank e.hardwareId = true → ∀ rest, ∃ detail,
        Decoder.binary.decode (e.toBytes ++ rest) context =
          .error (.malformedPayload detail)) ∧
      ∀ part, part <+: e.toBytes → part ≠ e.toBytes →
        ∃ detail, Decoder.binary.decode part context =
          .error (.malformedPayload detail) := by
  have hSpells := spells hFits
  refine ⟨?_, ?_, ?_⟩
  · intro hId rest
    refine ⟨e.event context.enqueueTime?, ?_,
      conveys_event e context⟩
    simp [Decoder.binary, decode, hSpells.read, hId]
  · intro hBlank rest
    refine ⟨"Binary envelope has no hardware id", ?_⟩
    simp [Decoder.binary, decode, hSpells.read, hBlank]
  · intro part hPart hStrict
    refine ⟨"Invalid binary envelope", ?_⟩
    simp [Decoder.binary, decode,
      hSpells.short part hPart hStrict]

/- A device answers a command, in a payload with a byte over. -/
theorem decode_acknowledgement :
    let e : Envelope :=
      ⟨"dev-7", some "inv-1", some 1700000000250, true,
        .acknowledge "inv-1" "ok"⟩
    e.Fits ∧ ∃ event,
      Decoder.binary.decode (e.toBytes ++ [255]) .empty =
          .ok [event] ∧
        event.kind = .commandResponse "inv-1" none "ok" ∧
        event.eventDate = some ⟨1700000000, 250000000⟩ := by
  intro e
  have hFits : e.Fits := by
    constructor
    · decide
    · decide
    · decide
    · exact ⟨by decide, by decide⟩
  have hDecode :=
    (decode_whole_or_nothing hFits .empty).1 (by decide) [255]
  rcases hDecode with ⟨event, hOk, hConveys⟩
  refine ⟨hFits, event, hOk, ?_, ?_⟩
  · exact hConveys.acknowledge "inv-1" "ok" rfl
  · refine hConveys.dated 1700000000250 _ rfl ?_
    constructor <;> decide

end Envelope

end DeviceHub
