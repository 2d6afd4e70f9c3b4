import DeviceHub.Proofs.Batch.Operation
import DeviceHub.Proofs.Store.Backend
import DeviceHub.Proofs.Store.Search
import DeviceHub.Proofs.Text.Blank
import Mathlib.Data.List.Basic

/-
  The devices that the targets of a batch request come to.

  Listed ids are taken as they are, known or not.  Criteria
  choose among the members of a group, the members of all
  groups with a role, or all devices, and the order is that
  of the source they choose from.  No device comes twice.

  Key definitions include:
    * `BatchCriteria.Covers`, `BatchCriteria.CoversId`
    * `Selection`

  Main statements:
    * `DeviceStore.select_eq`
    * `DeviceStore.Filed.selection`
    * `BatchTargets.resolve_exact`
-/

namespace DeviceHub

------------------------------------------------------------
-- Criteria
------------------------------------------------------------

namespace BatchCriteria

/- The search for the devices with a specification. -/
def toSearch
    (c : BatchCriteria)
    (specification : String) : DeviceSearch :=
  { specificationToken := some specification
    excludeAssigned := c.excludeAssigned
    startDate := c.startDate
    endDate := c.endDate
    pageNumber := 1
    pageSize := 0 }

/- The devices that criteria speak of, groups apart. -/
def Covers
    (c : BatchCriteria)
    (specification : String)
    (d : Device) : Prop :=
  (c.toSearch specification).AsksFor d

/- The ids of devices in a store that criteria speak of. -/
def CoversId
    (c : BatchCriteria)
    (s : DeviceStore)
    (specification id : String) : Prop :=
  ∃ d, s.devices.get? id = some d ∧ c.Covers specification d

variable {c : BatchCriteria}

/- Without a specification there is no search. -/
theorem search_of_missing
    (hMissing : ∀ t, ¬ Text.Says c.specificationToken t) :
    c.search = .error .missingSpecificationToken := by
  unfold search
  rw [Text.nonBlank?_eq_none_iff.2 hMissing]

/- A group and a role are too much. -/
theorem search_of_conflict
    {specification group role : String}
    (hSpecification :
      Text.Says c.specificationToken specification)
    (hGroup : Text.Says c.groupToken group)
    (hRole : Text.Says c.groupsWithRole role) :
    c.search = .error .conflictingGroupCriteria := by
  unfold search
  rw [Text.nonBlank?_eq_some_iff.2 hSpecification,
    Text.nonBlank?_eq_some_iff.2 hGroup,
    Text.nonBlank?_eq_some_iff.2 hRole]
  rfl

theorem search_eq
    {specification : String}
    (hSpecification :
      Text.Says c.specificationToken specification)
    (hSingle : Text.nonBlank? c.groupToken = none ∨
      Text.nonBlank? c.groupsWithRole = none) :
    c.search = .ok (c.toSearch specification) := by
  unfold search
  rw [Text.nonBlank?_eq_some_iff.2 hSpecification]
  rcases hSingle with hGroup | hRole
  · simp only [hGroup, Option.isSome_none, Bool.false_and,
      Bool.false_eq_true, if_false]
    rfl
  · simp only [hRole, Option.isSome_none, Bool.and_false,
      Bool.false_eq_true, if_false]
    rfl

end BatchCriteria

------------------------------------------------------------
-- Selections
------------------------------------------------------------

/-
  The wanted ones of some candidates, each at its first
  place.
-/
structure Selection
    (wanted : String → Prop)
    (candidates ids : List String) : Prop where
  inOrder : ids.Sublist candidates.eraseDups
  complete : ∀ id, id ∈ ids ↔ id ∈ candidates ∧ wanted id

namespace BatchTargets

theorem distinct_nil
    (ids : List String) :
    distinct [] ids = ids.eraseDups := by
  rw [distinct_eq_eraseDups]
  exact congrArg _ (List.filter_eq_self.2 fun _ _ => rfl)

/- Where ids differ already, none is dropped. -/
theorem distinct_of_nodup
    {ids : List String}
    (hNodup : ids.Nodup) :
    distinct [] ids = ids := by
  rw [distinct_nil]
  induction ids with
  | nil => rfl
  | cons id rest ih =>
      rw [List.nodup_cons] at hNodup
      have hRest : rest.filter (fun other => !other == id) =
          rest := by
        refine List.filter_eq_self.2 fun other hMem => ?_
        have hNe : other ≠ id := by
          rintro rfl
          exact hNodup.1 hMem
        simpa using hNe
      rw [List.eraseDups_cons, hRest, ih hNodup.2]

end BatchTargets

namespace DeviceStore

variable {s : DeviceStore}

/- A selection goes through the distinct ids in order. -/
theorem select_eq
    (s : DeviceStore)
    (search : DeviceSearch)
    (seen ids : List String) :
    s.select search seen ids =
      (BatchTargets.distinct seen ids).filterMap fun id =>
        (s.devices.get? id).filter search.accepts := by
  induction ids generalizing seen with
  | nil => rfl
  | cons id rest ih =>
      unfold select BatchTargets.distinct
      by_cases hSeen : seen.contains id = true
      · rw [if_pos hSeen, if_pos hSeen]
        exact ih seen
      · rw [if_neg hSeen, if_neg hSeen, List.filterMap_cons,
          ih (id :: seen)]
        cases (s.devices.get? id).filter search.accepts with
        | none => rfl
        | some d => rfl

/- The ids of what is selected are the wanted candidates. -/
theorem Filed.selection
    (hFiled : s.Filed)
    (search : DeviceSearch)
    (candidates : List String) :
    Selection
      (fun id => ∃ d, s.devices.get? id = some d ∧
        search.accepts d = true)
      candidates
      (BatchTargets.distinct []
        ((s.select search [] candidates).map
          (·.hardwareId))) := by
  have hIds : (s.select search [] candidates).map
        (·.hardwareId) =
      candidates.eraseDups.filter fun id =>
        (s.devices.get? id).any search.accepts := by
    rw [select_eq, BatchTargets.distinct_nil,
      List.map_filterMap, ← List.filterMap_eq_filter]
    refine List.filterMap_congr fun id _ => ?_
    cases hDevice : s.devices.get? id with
    | none => simp [Option.guard, hDevice]
    | some d =>
        have hId := hFiled.devices id d hDevice
        by_cases hAccepted : search.accepts d = true
        · simp [Option.guard, Option.filter, hDevice, hId,
            hAccepted]
        · simp [Option.guard, Option.filter, hDevice,
            hAccepted]
  have hNodup : ((s.select search [] candidates).map
      (·.hardwareId)).Nodup := by
    rw [hIds, ← BatchTargets.distinct_nil]
    exact (BatchTargets.distinct_spec [] candidates).1.filter _
  rw [BatchTargets.distinct_of_nodup hNodup, hIds]
  refine ⟨List.filter_sublist, fun id => ?_⟩
  rw [List.mem_filter, List.mem_eraseDups,
    Option.any_eq_true]

end DeviceStore

------------------------------------------------------------
-- Resolution
------------------------------------------------------------

namespace BatchTargets

variable {b : Backend} {c : BatchCriteria}

/- Listed ids are trimmed, and blank ones are dropped. -/
theorem cleaned_eq
    (ids : List String) :
    cleaned ids =
      (ids.map Text.trim).filter fun id => id ≠ "" := by
  unfold cleaned
  rw [List.filter_map]
  refine congrArg (List.map Text.trim) ?_
  refine List.filter_congr fun id _ => ?_
  have hBlank := Text.trim_eq_empty_iff (s := id)
  simp only [Function.comp, ne_eq, hBlank]
  cases Text.isBlank id with
  | false => rfl
  | true => rfl

theorem resolve_of_error
    {e : BatchError}
    (hSearch : c.search = .error e) :
    resolve b (.criteria c) = .error e := by
  unfold resolve resolveWith
  simp only [hSearch, error_bind]

theorem resolve_of_found
    {search : DeviceSearch}
    {found : List Device}
    (hSearch : c.search = .ok search)
    (hFound : lookUp b c search = .ok found) :
    resolve b (.criteria c) =
      .ok (distinct [] (found.map (·.hardwareId))) := by
  unfold resolve resolveWith stored
  simp only [hSearch, ok_bind, hFound, mapError_ok, pure_eq_ok]

section Sources

variable {specification : String}
variable (hFaults : b.faults = [])
variable (hSpecification :
  Text.Says c.specificationToken specification)

include hFaults hSpecification

/- With a group, its members are chosen from. -/
theorem resolve_group
    {group : String}
    (hGroup : Text.Says c.groupToken group)
    (hRole : ∀ role, ¬ Text.Says c.groupsWithRole role) :
    resolve b (.criteria c) = .ok (distinct []
      ((b.store.devicesOfGroup group
        (c.toSearch specification)).map (·.hardwareId))) := by
  have hNone := Text.nonBlank?_eq_none_iff.2 hRole
  refine resolve_of_found
    (BatchCriteria.search_eq hSpecification (.inr hNone)) ?_
  unfold lookUp Backend.devicesOfGroup
  rw [Text.nonBlank?_eq_some_iff.2 hGroup, hNone]
  exact Backend.guarded_eq hFaults _ _

/- With a role, the members of the groups that have it. -/
theorem resolve_role
    {role : String}
    (hGroup : ∀ group, ¬ Text.Says c.groupToken group)
    (hRole : Text.Says c.groupsWithRole role) :
    resolve b (.criteria c) = .ok (distinct []
      ((b.store.devicesWithRole role
        (c.toSearch specification)).map (·.hardwareId))) := by
  have hNone := Text.nonBlank?_eq_none_iff.2 hGroup
  refine resolve_of_found
    (BatchCriteria.search_eq hSpecification (.inl hNone)) ?_
  unfold lookUp Backend.devicesWithRole
  rw [Text.nonBlank?_eq_some_iff.2 hRole, hNone]
  exact Backend.guarded_eq hFaults _ _

/- With neither, all devices. -/
theorem resolve_all
    (hGroup : ∀ group, ¬ Text.Says c.groupToken group)
    (hRole : ∀ role, ¬ Text.Says c.groupsWithRole role) :
    resolve b (.criteria c) = .ok (distinct []
      ((b.store.matching (c.toSearch specification)).map
        (·.hardwareId))) := by
  have hNone := Text.nonBlank?_eq_none_iff.2 hGroup
  refine resolve_of_found
    (BatchCriteria.search_eq hSpecification (.inl hNone)) ?_
  unfold lookUp Backend.listDevices
  rw [Text.nonBlank?_eq_none_iff.2 hRole, hNone,
    Backend.guarded_eq hFaults]
  rfl

end Sources

/- The groups with a role come in the order of their tokens. -/
theorem membersWithRole_eq
    {s : DeviceStore}
    (hFiled : s.Filed)
    (role : String) :
    ∃ groups : List DeviceGroup,
      groups.Pairwise (fun g h => g.token < h.token) ∧
      (∀ g, g ∈ groups ↔
        s.groups.get? g.token = some g ∧ role ∈ g.roles) ∧
      s.membersWithRole role = groups.flatMap (·.members) := by
  refine ⟨_, ?_, ?_, rfl⟩
  · refine List.Pairwise.filter _ (List.pairwise_map.2 ?_)
    refine List.Pairwise.imp_of_mem ?_ s.groups.ordered
    intro e f he hf hLess
    rw [hFiled.groups e.1 e.2 (Dict.mem_entries_iff.1 he),
      hFiled.groups f.1 f.2 (Dict.mem_entries_iff.1 hf)]
    exact hLess
  · intro g
    rw [List.mem_filter, List.mem_map, List.contains_iff_mem]
    refine and_congr_left fun _ => ?_
    constructor
    · rintro ⟨⟨token, h⟩, hEntry, rfl⟩
      have hGroup := Dict.mem_entries_iff.1 hEntry
      rwa [hFiled.groups token h hGroup]
    · intro hGroup
      exact ⟨_, Dict.mem_entries_iff.2 hGroup, rfl⟩

/-
  What targets come to.  A list is trimmed, its blank entries
  are dropped, and the first of equal ones is kept.  Criteria
  need a specification, and not both a group and a role.
  They choose the devices that they cover: with a group among
  its members in order, with a role among the members of all
  groups that have it, by token, and otherwise among all, by
  date of creation and then by id.  None is missed, and none
  comes twice.
-/
theorem resolve_exact
    {b : Backend}
    (hBuilt : b.store.Built)
    (hFaults : b.faults = []) :
    (∀ t ids, resolve b t = .ok ids → ids.Nodup) ∧
    (∀ ids, resolve b (.devices ids) =
      .ok ((ids.map Text.trim).filter
        fun id => id ≠ "").eraseDups) ∧
    ∀ c : BatchCriteria,
      ((∀ t, ¬ Text.Says c.specificationToken t) →
        resolve b (.criteria c) =
          .error .missingSpecificationToken) ∧
      ∀ specification,
        Text.Says c.specificationToken specification →
        (∀ group role, Text.Says c.groupToken group →
          Text.Says c.groupsWithRole role →
          resolve b (.criteria c) =
            .error .conflictingGroupCriteria) ∧
        (∀ group, Text.Says c.groupToken group →
          (∀ role, ¬ Text.Says c.groupsWithRole role) →
          (b.store.groups.get? group = none →
            resolve b (.criteria c) = .ok []) ∧
          ∀ g, b.store.groups.get? group = some g →
            ∃ ids, resolve b (.criteria c) = .ok ids ∧
              Selection (c.CoversId b.store specification)
                g.members ids) ∧
        (∀ role, (∀ group, ¬ Text.Says c.groupToken group) →
          Text.Says c.groupsWithRole role →
          ∃ (groups : List DeviceGroup) (ids : List String),
            groups.Pairwise (fun g h => g.token < h.token) ∧
            (∀ g, g ∈ groups ↔
              b.store.groups.get? g.token = some g ∧
                role ∈ g.roles) ∧
            resolve b (.criteria c) = .ok ids ∧
            Selection (c.CoversId b.store specification)
              (groups.flatMap (·.members)) ids) ∧
        ((∀ group, ¬ Text.Says c.groupToken group) →
          (∀ role, ¬ Text.Says c.groupsWithRole role) →
          ∃ devices : List Device,
            resolve b (.criteria c) =
              .ok (devices.map (·.hardwareId)) ∧
            devices.Pairwise DeviceStore.ComesFirst ∧
            ∀ d, d ∈ devices ↔
              b.store.devices.get? d.hardwareId = some d ∧
                c.Covers specification d) := by
  have hFiled := hBuilt.filed
  refine ⟨fun t ids => nodup_of_resolveWith, ?_, ?_⟩
  · intro ids
    rw [← cleaned_eq, ← distinct_nil]
    rfl
  · intro c
    refine ⟨fun hMissing => resolve_of_error
      (BatchCriteria.search_of_missing hMissing), ?_⟩
    intro specification hSpecification
    have hSelected := fun candidates =>
      hFiled.selection (c.toSearch specification) candidates
    simp only [DeviceSearch.accepts_iff] at hSelected
    refine ⟨?_, ?_, ?_, ?_⟩
    · intro group role hGroup hRole
      exact resolve_of_error
        (BatchCriteria.search_of_conflict hSpecification
          hGroup hRole)
    · intro group hGroup hRole
      have hFound :=
        resolve_group hFaults hSpecification hGroup hRole
      unfold DeviceStore.devicesOfGroup at hFound
      constructor
      · intro hUnknown
        rw [hFound, hUnknown]
        rfl
      · intro g hKnown
        rw [hKnown] at hFound
        exact ⟨_, hFound, hSelected g.members⟩
    · intro role hGroup hRole
      have hFound :=
        resolve_role hFaults hSpecification hGroup hRole
      unfold DeviceStore.devicesWithRole at hFound
      rcases membersWithRole_eq hFiled role with
        ⟨groups, hOrder, hGroups, hMembers⟩
      rw [hMembers] at hFound
      exact ⟨groups, _, hOrder, hGroups, hFound,
        hSelected _⟩
    · intro hGroup hRole
      have hFound :=
        resolve_all hFaults hSpecification hGroup hRole
      rw [distinct_of_nodup (hFiled.nodup_matching _)]
        at hFound
      refine ⟨_, hFound, hFiled.pairwise_matching _, ?_⟩
      intro d
      refine hFiled.mem_matching_iff.trans ?_
      exact and_congr_right fun _ => DeviceSearch.accepts_iff

/- Two groups of lifts that share a crane. -/
def liftYard : DeviceStore :=
  ((((DeviceStore.empty.addDevice
      (.new "c-1" "crane" default)).addDevice
      (.new "c-2" "crane" default)).addDevice
      (.new "t-1" "truck" default)).addGroup
      ⟨"west", ["lift"], ["c-2", "t-1", "c-1"]⟩).addGroup
      ⟨"east", ["lift", "dock"], ["c-2", "c-9"]⟩

/- The cranes among the lifts. -/
def liftCranes : BatchCriteria :=
  ⟨some "  ", some " lift ", some "crane ", true, none, none⟩

/- The shared crane comes first and once, the truck never. -/
theorem resolve_exact_lifts :
    ∃ (groups : List DeviceGroup) (ids : List String),
      groups.Pairwise (fun g h => g.token < h.token) ∧
      (∀ g, g ∈ groups ↔
        liftYard.groups.get? g.token = some g ∧
          "lift" ∈ g.roles) ∧
      resolve (.of liftYard default toString)
        (.criteria liftCranes) = .ok ids ∧
      ids = ["c-2", "c-1"] ∧
      Selection (liftCranes.CoversId liftYard "crane")
        (groups.flatMap (·.members)) ids := by
  let b : Backend := .of liftYard default toString
  have hBuilt : b.store.Built :=
    .addGroup (.addGroup (.addDevice (.addDevice (.addDevice
      .empty _) _) _) _) _
  have hSpecification :
      Text.Says liftCranes.specificationToken "crane" :=
    ⟨"crane ", rfl, by decide, by decide⟩
  have hRole :
      Text.Says liftCranes.groupsWithRole "lift" :=
    ⟨" lift ", rfl, by decide, by decide⟩
  have hGroup :
      ∀ group, ¬ Text.Says liftCranes.groupToken group := by
    rintro group ⟨raw, hRaw, rfl, hNot⟩
    cases hRaw
    exact hNot (by decide)
  rcases (((resolve_exact hBuilt rfl).2.2 liftCranes).2 _
      hSpecification).2.2.1 _ hGroup hRole with
    ⟨groups, ids, hOrder, hGroups, hIds, hSelected⟩
  have hFound : resolve b (.criteria liftCranes) =
      .ok ["c-2", "c-1"] := by
    decide
  rw [hFound, Except.ok.injEq] at hIds
  exact ⟨groups, ids, hOrder, hGroups, hFound.trans
    (congrArg _ hIds), hIds.symm, hSelected⟩

end BatchTargets

end DeviceHub
