import DeviceHub.Proofs.Dict
import DeviceHub.Store.Devices

/-
  What a store finds in a search.

  In a store that was built by its own operations, devices
  stand under their ids and groups under their tokens.  Then
  a search finds exactly the devices that it asks for, each
  once, by date of creation and then by id.

  Key definitions include:
    * `DeviceSearch.AsksFor`
    * `DeviceStore.Built`
    * `DeviceStore.Filed`
    * `DeviceStore.ComesFirst`

  Main statements:
    * `DeviceSearch.accepts_iff`
    * `DeviceStore.Built.filed`
    * `DeviceStore.Filed.mem_matching_iff`
    * `DeviceStore.Filed.pairwise_matching`
-/

namespace DeviceHub

------------------------------------------------------------
-- Instants
------------------------------------------------------------

namespace Instant

theorem before_iff
    {a b : Instant} :
    a.before b = true ↔ a.second < b.second ∨
      (a.second = b.second ∧ a.nano < b.nano) := by
  simp [before]

theorem before_trans
    {a b c : Instant}
    (hab : a.before b = true)
    (hbc : b.before c = true) :
    a.before c = true := by
  rw [before_iff] at hab hbc ⊢
  omega

/- Of two different instants one comes before the other. -/
theorem before_or_eq_or_before
    (a b : Instant) :
    a.before b = true ∨ a = b ∨ b.before a = true := by
  rw [before_iff, before_iff]
  cases a
  cases b
  simp only [mk.injEq]
  omega

end Instant

------------------------------------------------------------
-- Criteria
------------------------------------------------------------

namespace DeviceSearch

/-
  What a search asks for, pages apart: devices with the
  specification, unassigned if assigned ones are left out,
  and not created before the one date or after the other.
-/
structure AsksFor
    (search : DeviceSearch)
    (d : Device) : Prop where
  specification : ∀ token,
    search.specificationToken = some token →
      d.specificationToken = token
  unassigned : search.excludeAssigned = true →
    d.assignmentToken = none
  notBefore : ∀ start, search.startDate = some start →
    d.createdDate.before start = false
  notAfter : ∀ finish, search.endDate = some finish →
    finish.before d.createdDate = false

theorem accepts_iff
    {search : DeviceSearch}
    {d : Device} :
    search.accepts d = true ↔ search.AsksFor d := by
  unfold accepts Device.isAssigned
  simp only [Bool.and_eq_true, Option.all_eq_true,
    beq_iff_eq, Bool.not_eq_true', Bool.and_eq_false_imp,
    Option.isSome_eq_false_iff, Option.isNone_iff_eq_none]
  constructor
  · rintro ⟨⟨⟨hToken, hUnassigned⟩, hStart⟩, hFinish⟩
    exact ⟨fun token h => (hToken token h).symm,
      hUnassigned, hStart, hFinish⟩
  · rintro ⟨hToken, hUnassigned, hStart, hFinish⟩
    exact ⟨⟨⟨fun token h => (hToken token h).symm,
      hUnassigned⟩, hStart⟩, hFinish⟩

end DeviceSearch

namespace DeviceStore

------------------------------------------------------------
-- Stores in Use
------------------------------------------------------------

/- The stores that there are: made empty, and then used. -/
inductive Built : DeviceStore → Prop where
  | empty : Built empty
  | addDevice
      {s : DeviceStore}
      (hBefore : Built s)
      (d : Device) :
      Built (s.addDevice d)
  | addAssignment
      {s : DeviceStore}
      (hBefore : Built s)
      (a : DeviceAssignment) :
      Built (s.addAssignment a)
  | addCommand
      {s : DeviceStore}
      (hBefore : Built s)
      (c : CommandDefinition) :
      Built (s.addCommand c)
  | addGroup
      {s : DeviceStore}
      (hBefore : Built s)
      (g : DeviceGroup) :
      Built (s.addGroup g)
  | createEvent
      {s s' : DeviceStore}
      {id : String}
      {now : Instant}
      {hardwareId : String}
      {e : DecodedEvent}
      {event : StoredEvent}
      (hBefore : Built s)
      (hEvent : s.createEvent id now hardwareId e =
        .ok (event, s')) :
      Built s'
  | updateState
      {s s' : DeviceStore}
      {hardwareId : String}
      {e : StoredEvent}
      (hBefore : Built s)
      (hUpdate : s.updateState hardwareId e = .ok s') :
      Built s'

/- Devices and groups stand where their names say. -/
structure Filed
    (s : DeviceStore) : Prop where
  devices : ∀ id d, s.devices.get? id = some d →
    d.hardwareId = id
  groups : ∀ token g, s.groups.get? token = some g →
    g.token = token

/- To store something under its name keeps all in its place. -/
theorem filed_insert
    {α : Type}
    {entries : Dict α}
    {name : α → String}
    (hFiled : ∀ k v, entries.get? k = some v → name v = k)
    {l : String}
    {w : α}
    (hName : name w = l) :
    ∀ k v, (entries.insert l w).get? k = some v →
      name v = k := by
  intro k v hValue
  rw [Dict.get?_insert] at hValue
  by_cases hKey : k = l
  · rw [if_pos hKey, Option.some.injEq] at hValue
    rw [← hValue, hName, hKey]
  · rw [if_neg hKey] at hValue
    exact hFiled k v hValue

/- Of devices and groups, events change nothing. -/
theorem sameFiles_createEvent
    {s s' : DeviceStore}
    {id : String}
    {now : Instant}
    {hardwareId : String}
    {e : DecodedEvent}
    {event : StoredEvent}
    (hEvent : s.createEvent id now hardwareId e =
      .ok (event, s')) :
    s'.devices = s.devices ∧ s'.groups = s.groups := by
  unfold createEvent at hEvent
  split at hEvent
  · cases hEvent
  · cases hEvent
    exact ⟨rfl, rfl⟩

theorem sameFiles_updateState
    {s s' : DeviceStore}
    {hardwareId : String}
    {e : StoredEvent}
    (hUpdate : s.updateState hardwareId e = .ok s') :
    s'.devices = s.devices ∧ s'.groups = s.groups := by
  unfold updateState at hUpdate
  split at hUpdate
  · cases hUpdate
  · split at hUpdate
    · cases hUpdate
    · split at hUpdate
      · cases hUpdate
      · cases hUpdate
        exact ⟨rfl, rfl⟩

theorem Filed.of_sameFiles
    {s s' : DeviceStore}
    (hFiled : s.Filed)
    (hSame : s'.devices = s.devices ∧ s'.groups = s.groups) :
    s'.Filed where
  devices := by
    rw [hSame.1]
    exact hFiled.devices
  groups := by
    rw [hSame.2]
    exact hFiled.groups

theorem Filed.addAssignment
    {s : DeviceStore}
    (hFiled : s.Filed)
    (a : DeviceAssignment) :
    (s.addAssignment a).Filed where
  devices := by
    unfold DeviceStore.addAssignment
    cases hDevice : s.devices.get? a.hardwareId with
    | none => exact hFiled.devices
    | some d =>
        exact filed_insert hFiled.devices
          (hFiled.devices _ d hDevice)
  groups := hFiled.groups

/- No operation of a store misplaces anything. -/
theorem Built.filed
    {s : DeviceStore}
    (hBuilt : s.Built) :
    s.Filed := by
  induction hBuilt with
  | empty => exact ⟨nofun, nofun⟩
  | addDevice _ d ih =>
      exact ⟨filed_insert ih.devices rfl, ih.groups⟩
  | addAssignment _ a ih => exact ih.addAssignment a
  | addCommand _ c ih => exact ⟨ih.devices, ih.groups⟩
  | addGroup _ g ih =>
      exact ⟨ih.devices, filed_insert ih.groups rfl⟩
  | createEvent _ hEvent ih =>
      exact ih.of_sameFiles (sameFiles_createEvent hEvent)
  | updateState _ hUpdate ih =>
      exact ih.of_sameFiles (sameFiles_updateState hUpdate)

------------------------------------------------------------
-- Lists of Devices
------------------------------------------------------------

/- The strict order: by date of creation, then by id. -/
def ComesFirst
    (a b : Device) : Prop :=
  a.createdDate.before b.createdDate = true ∨
    (a.createdDate = b.createdDate ∧
      a.hardwareId < b.hardwareId)

theorem comesBefore_iff
    {a b : Device} :
    comesBefore a b = true ↔
      a.createdDate.before b.createdDate = true ∨
        (a.createdDate = b.createdDate ∧
          a.hardwareId ≤ b.hardwareId) := by
  simp [comesBefore, ← String.not_lt]

theorem comesBefore_trans
    (a b c : Device)
    (hab : comesBefore a b = true)
    (hbc : comesBefore b c = true) :
    comesBefore a c = true := by
  rw [comesBefore_iff] at hab hbc ⊢
  rcases hab with hab | ⟨hab, hIds⟩
  · rcases hbc with hbc | ⟨hbc, -⟩
    · exact .inl (Instant.before_trans hab hbc)
    · rw [← hbc]
      exact .inl hab
  · rw [hab]
    exact hbc.imp_right fun h =>
      ⟨h.1, String.le_trans hIds h.2⟩

theorem comesBefore_total
    (a b : Device) :
    (comesBefore a b || comesBefore b a) = true := by
  rw [Bool.or_eq_true, comesBefore_iff, comesBefore_iff]
  rcases Instant.before_or_eq_or_before a.createdDate
      b.createdDate with hab | hSame | hba
  · exact .inl (.inl hab)
  · rcases String.le_total a.hardwareId b.hardwareId with
      hIds | hIds
    · exact .inl (.inr ⟨hSame, hIds⟩)
    · exact .inr (.inr ⟨hSame.symm, hIds⟩)
  · exact .inr (.inl hba)

/- Devices with different ids come one strictly first. -/
theorem comesFirst_of_ne
    {a b : Device}
    (hBefore : comesBefore a b = true)
    (hNe : a.hardwareId ≠ b.hardwareId) :
    ComesFirst a b :=
  (comesBefore_iff.1 hBefore).imp_right fun h =>
    ⟨h.1, Std.lt_of_le_of_ne h.2 hNe⟩

section Searches

variable {s : DeviceStore} (hFiled : s.Filed)

include hFiled

/- A search finds the devices that it asks for. -/
theorem Filed.mem_matching_iff
    {search : DeviceSearch}
    {d : Device} :
    d ∈ s.matching search ↔
      s.devices.get? d.hardwareId = some d ∧
        search.accepts d = true := by
  unfold matching
  rw [List.mem_mergeSort, List.mem_filter, List.mem_map]
  refine and_congr_left fun _ => ?_
  constructor
  · rintro ⟨⟨id, e⟩, hEntry, rfl⟩
    have hDevice := Dict.mem_entries_iff.1 hEntry
    rwa [hFiled.devices id e hDevice]
  · intro hDevice
    exact ⟨_, Dict.mem_entries_iff.2 hDevice, rfl⟩

/- No two devices that it finds have one id. -/
theorem Filed.nodup_matching
    (search : DeviceSearch) :
    ((s.matching search).map (·.hardwareId)).Nodup := by
  have hKeys : (s.devices.entries.map (·.2)).map
      (·.hardwareId) = s.devices.keys := by
    unfold Dict.keys
    rw [List.map_map]
    refine List.map_congr_left fun e hEntry => ?_
    exact hFiled.devices e.1 e.2
      (Dict.mem_entries_iff.1 hEntry)
  unfold matching
  refine ((List.mergeSort_perm _ _).map _).nodup_iff.2 ?_
  have hNodup := s.devices.nodup_keys
  rw [← hKeys] at hNodup
  exact hNodup.sublist (List.filter_sublist.map _)

/- It lists them by date of creation, then by id. -/
theorem Filed.pairwise_matching
    (search : DeviceSearch) :
    (s.matching search).Pairwise ComesFirst := by
  have hSorted : (s.matching search).Pairwise fun a b =>
      comesBefore a b = true :=
    List.pairwise_mergeSort comesBefore_trans
      comesBefore_total _
  have hDistinct := hFiled.nodup_matching search
  rw [List.Nodup, List.pairwise_map] at hDistinct
  exact hSorted.imp₂ (fun _ _ => comesFirst_of_ne) hDistinct

end Searches

end DeviceStore

end DeviceHub
