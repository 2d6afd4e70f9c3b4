import DeviceHub.Dict

/-
  Finite maps through their look-ups.

  Main statements:
    * `Dict.get?_insert`
    * `Dict.get?_erase`
    * `Dict.mem_entries_iff`
    * `Dict.ext_get?`
    * `Dict.get?_filter`
    * `Dict.empty_union`
    * `Dict.get?_union`
    * `Dict.get?_ofList`
    * `Dict.exists_split`
-/

namespace DeviceHub

------------------------------------------------------------
-- Entries
------------------------------------------------------------

/- Keys neither of which comes first are equal. -/
theorem eq_of_not_lt
    {k l : String}
    (hkl : ¬ k < l)
    (hlk : ¬ l < k) :
    k = l :=
  String.le_antisymm (String.not_lt.1 hlk)
    (String.not_lt.1 hkl)

/- A key is looked up beyond the entries of other keys. -/
theorem lookup_cons_of_ne
    {α : Type}
    {k l : String}
    (w : α)
    (rest : List (String × α))
    (hNe : k ≠ l) :
    ((l, w) :: rest).lookup k = rest.lookup k := by
  have hBeq : (k == l) = false := beq_false_of_ne hNe
  simp [List.lookup_cons, hBeq]

/- The inserted key has the inserted value. -/
theorem lookup_insertEntry_self
    {α : Type}
    (k : String)
    (v : α)
    (entries : List (String × α)) :
    (insertEntry k v entries).lookup k = some v := by
  induction entries with
  | nil => simp [insertEntry]
  | cons head rest ih =>
      rcases head with ⟨l, w⟩
      simp only [insertEntry]
      split
      · simp
      · split
        · rename_i hlk
          have hNe : k ≠ l := (String.ne_of_lt hlk).symm
          rw [lookup_cons_of_ne w _ hNe]
          exact ih
        · simp

/- Other keys keep their values. -/
theorem lookup_insertEntry_of_ne
    {α : Type}
    {j k : String}
    (v : α)
    (entries : List (String × α))
    (hNe : j ≠ k) :
    (insertEntry k v entries).lookup j =
      entries.lookup j := by
  induction entries with
  | nil => simp [insertEntry, hNe]
  | cons head rest ih =>
      rcases head with ⟨l, w⟩
      simp only [insertEntry]
      split
      · exact lookup_cons_of_ne v _ hNe
      · rename_i hkl
        split
        · simp [List.lookup_cons, ih]
        · rename_i hlk
          have hEq := eq_of_not_lt hkl hlk
          subst hEq
          rw [lookup_cons_of_ne v _ hNe,
            lookup_cons_of_ne w _ hNe]

/- Leaving one key out changes no other key's value. -/
theorem lookup_filter_key
    {α : Type}
    (j k : String)
    (entries : List (String × α)) :
    (entries.filter fun e => e.1 != k).lookup j =
      if j = k then none else entries.lookup j := by
  induction entries with
  | nil => simp
  | cons head rest ih =>
      rcases head with ⟨l, w⟩
      by_cases hl : l = k
      · subst hl
        simp only [bne_self_eq_false, List.filter_cons,
          Bool.false_eq_true, if_false, ih]
        by_cases hj : j = l
        · simp [hj]
        · simp [hj, lookup_cons_of_ne w rest hj]
      · have hKeep : (l != k) = true := by simpa using hl
        simp only [List.filter_cons, hKeep, if_true]
        by_cases hj : j = l
        · subst hj
          simp [hl]
        · rw [lookup_cons_of_ne w _ hj,
            lookup_cons_of_ne w _ hj, ih]

/- A key beyond all others is inserted at the end. -/
theorem insertEntry_of_forall_lt
    {α : Type}
    {k : String}
    (v : α)
    {entries : List (String × α)}
    (hLast : ∀ e ∈ entries, e.1 < k) :
    insertEntry k v entries = entries ++ [(k, v)] := by
  induction entries with
  | nil => rfl
  | cons head rest ih =>
      rcases head with ⟨l, w⟩
      have hlk : l < k := hLast (l, w) List.mem_cons_self
      have hRest : ∀ e ∈ rest, e.1 < k := fun e he =>
        hLast e (List.mem_cons_of_mem _ he)
      simp only [insertEntry, if_neg (String.lt_asymm hlk),
        if_pos hlk, ih hRest, List.cons_append]

------------------------------------------------------------
-- Maps
------------------------------------------------------------

namespace Dict

variable {α : Type}

/- Maps with the same entries are equal. -/
theorem ext_entries
    {d e : Dict α}
    (hEntries : d.entries = e.entries) :
    d = e := by
  cases d
  cases e
  congr

@[simp] theorem get?_empty
    (k : String) :
    (empty : Dict α).get? k = none := rfl

/- An insertion shows at its key only. -/
theorem get?_insert
    (d : Dict α)
    (j k : String)
    (v : α) :
    (d.insert k v).get? j =
      if j = k then some v else d.get? j := by
  by_cases hj : j = k
  · subst hj
    simpa [get?, insert] using
      lookup_insertEntry_self j v d.entries
  · simpa [get?, insert, hj] using
      lookup_insertEntry_of_ne v d.entries hj

@[simp] theorem get?_insert_self
    (d : Dict α)
    (k : String)
    (v : α) :
    (d.insert k v).get? k = some v := by
  simp [get?_insert]

/- A removal shows at its key only. -/
theorem get?_erase
    (d : Dict α)
    (j k : String) :
    (d.erase k).get? j =
      if j = k then none else d.get? j :=
  lookup_filter_key j k d.entries

/- Inserting keys that lie beyond all others appends them. -/
theorem entries_insertAll
    (d : Dict α)
    (pairs : List (String × α))
    (hOrdered : OrderedEntries (d.entries ++ pairs)) :
    (d.insertAll pairs).entries = d.entries ++ pairs := by
  induction pairs generalizing d with
  | nil => simp [insertAll]
  | cons head rest ih =>
      rcases head with ⟨k, v⟩
      have hLast : ∀ e ∈ d.entries, e.1 < k := fun e he =>
        (List.pairwise_append.1 hOrdered).2.2 e he (k, v)
          List.mem_cons_self
      have hInsert : (d.insert k v).entries =
          d.entries ++ [(k, v)] :=
        insertEntry_of_forall_lt v hLast
      have hRest := ih (d.insert k v) (by
        simpa [hInsert] using hOrdered)
      simpa [insertAll, hInsert] using hRest

/- The keys are those with a value. -/
theorem mem_keys_iff
    {d : Dict α}
    {k : String} :
    k ∈ d.keys ↔ (d.get? k).isSome = true := by
  rw [get?, List.lookup_isSome_iff, keys, List.mem_map]
  constructor
  · rintro ⟨e, hMem, rfl⟩
    exact ⟨e, hMem, beq_self_eq_true e.1⟩
  · rintro ⟨e, hMem, hKey⟩
    exact ⟨e, hMem, (beq_iff_eq.1 hKey).symm⟩

/- No key occurs twice. -/
theorem nodup_keys
    (d : Dict α) :
    d.keys.Nodup :=
  List.pairwise_map.2 (d.ordered.imp String.ne_of_lt)

/- A map without keys has no values. -/
theorem keys_eq_nil_iff
    {d : Dict α} :
    d.keys = [] ↔ ∀ k, d.get? k = none := by
  rw [List.eq_nil_iff_forall_not_mem]
  simp only [mem_keys_iff, Bool.not_eq_true,
    Option.isSome_eq_false_iff, Option.isNone_iff_eq_none]

/- The entries are the keys with their values. -/
theorem mem_entries_iff
    {d : Dict α}
    {k : String}
    {v : α} :
    (k, v) ∈ d.entries ↔ d.get? k = some v := by
  constructor
  · intro hMem
    have hNodup := d.nodup_keys
    unfold keys at hNodup
    unfold get?
    generalize d.entries = entries at hMem hNodup
    induction entries with
    | nil => cases hMem
    | cons head rest ih =>
        rw [List.map_cons, List.nodup_cons] at hNodup
        rcases List.mem_cons.1 hMem with rfl | hLater
        · exact List.lookup_cons_self
        · rw [lookup_cons_of_ne head.2 rest]
          · exact ih hLater hNodup.2
          · rintro rfl
            exact hNodup.1 (List.mem_map.2 ⟨_, hLater, rfl⟩)
  · intro hValue
    rcases List.lookup_eq_some_iff.1 hValue with
      ⟨first, last, hEntries, -⟩
    rw [hEntries]
    exact List.mem_append_right _ List.mem_cons_self

/- No entry occurs twice. -/
theorem nodup_entries
    (d : Dict α) :
    d.entries.Nodup := by
  refine List.Pairwise.imp ?_ d.ordered
  rintro a b hLess rfl
  exact String.lt_irrefl a.1 hLess

/- Maps with the same look-ups are equal. -/
theorem ext_get?
    {d e : Dict α}
    (hSame : ∀ k, d.get? k = e.get? k) :
    d = e := by
  have hMem : ∀ x, x ∈ d.entries ↔ x ∈ e.entries := by
    rintro ⟨k, v⟩
    rw [mem_entries_iff, mem_entries_iff, hSame]
  have hPerm : d.entries.Perm e.entries :=
    (List.perm_ext_iff_of_nodup d.nodup_entries
      e.nodup_entries).2 hMem
  refine ext_entries (hPerm.eq_of_pairwise ?_ d.ordered
    e.ordered)
  intro x y _ _ hxy hyx
  exact absurd hyx (String.lt_asymm hxy)

/- The entries that pass a test keep their values. -/
theorem get?_filter
    (d : Dict α)
    (keep : String → α → Bool)
    (k : String) :
    (d.filter keep).get? k = (d.get? k).filter (keep k) := by
  refine Option.ext fun v => ?_
  rw [Option.filter_eq_some_iff, ← mem_entries_iff,
    ← mem_entries_iff]
  exact List.mem_filter

/- The empty map adds nothing to another. -/
@[simp] theorem empty_union
    (d : Dict α) :
    empty.union d = d := by
  have hEntries :=
    entries_insertAll empty d.entries (by
      simpa [empty] using d.ordered)
  exact ext_entries hEntries

------------------------------------------------------------
-- Maps From Lists
------------------------------------------------------------

/- Pairs with different keys all show, and hide no others. -/
theorem get?_insertAll
    (d : Dict α)
    {pairs : List (String × α)}
    (hNodup : (pairs.map (·.1)).Nodup)
    {k : String}
    {v : α} :
    (d.insertAll pairs).get? k = some v ↔
      (k, v) ∈ pairs ∨
        k ∉ pairs.map (·.1) ∧ d.get? k = some v := by
  induction pairs generalizing d with
  | nil => simp [insertAll]
  | cons head rest ih =>
      rcases head with ⟨l, w⟩
      rw [List.map_cons, List.nodup_cons] at hNodup
      have hStep : d.insertAll ((l, w) :: rest) =
          (d.insert l w).insertAll rest := rfl
      rw [hStep, ih (d.insert l w) hNodup.2, get?_insert,
        List.map_cons, List.mem_cons, List.mem_cons,
        Prod.mk.injEq]
      by_cases hk : k = l
      · subst hk
        have hNot : (k, v) ∉ rest := fun hMem =>
          hNodup.1 (List.mem_map.2 ⟨_, hMem, rfl⟩)
        simp [hNot, hNodup.1, eq_comm]
      · simp [hk]

/- Of two maps together, the second one is asked first. -/
theorem get?_union
    (d e : Dict α)
    (k : String) :
    (d.union e).get? k = (e.get? k).or (d.get? k) := by
  refine Option.ext fun v => ?_
  have hAbsent : k ∉ e.entries.map (·.1) ↔ e.get? k = none := by
    rw [← Option.not_isSome_iff_eq_none, ← mem_keys_iff]
    rfl
  rw [union, get?_insertAll d e.nodup_keys, mem_entries_iff,
    hAbsent, Option.or_eq_some_iff]

/- The map of pairs with different keys has just these. -/
theorem get?_ofList
    {pairs : List (String × α)}
    (hNodup : (pairs.map (·.1)).Nodup)
    {k : String}
    {v : α} :
    (ofList pairs).get? k = some v ↔ (k, v) ∈ pairs := by
  rw [ofList, get?_insertAll empty hNodup]
  simp

------------------------------------------------------------
-- Entries Around a Key
------------------------------------------------------------

/- Before an entry come lesser keys, after it greater ones. -/
theorem split_ordered
    {d : Dict α}
    {k : String}
    {v : α}
    {before after : List (String × α)}
    (hEntries : d.entries = before ++ (k, v) :: after) :
    (∀ e ∈ before, e.1 < k) ∧ ∀ e ∈ after, k < e.1 := by
  have hOrdered := d.ordered
  unfold OrderedEntries at hOrdered
  rw [hEntries, List.pairwise_append, List.pairwise_cons]
    at hOrdered
  exact ⟨fun e hMem =>
    hOrdered.2.2 e hMem (k, v) List.mem_cons_self,
    hOrdered.2.1.1⟩

theorem get?_of_split
    {d : Dict α}
    {k : String}
    {v : α}
    {before after : List (String × α)}
    (hEntries : d.entries = before ++ (k, v) :: after) :
    d.get? k = some v := by
  rw [← mem_entries_iff, hEntries]
  exact List.mem_append_right _ List.mem_cons_self

/- What has a greater key stands after an entry. -/
theorem mem_after_of_lt
    {d : Dict α}
    {k l : String}
    {v w : α}
    {before after : List (String × α)}
    (hEntries : d.entries = before ++ (k, v) :: after)
    (hl : d.get? l = some w)
    (hLess : k < l) :
    (l, w) ∈ after := by
  rw [← mem_entries_iff, hEntries, List.mem_append,
    List.mem_cons, Prod.mk.injEq] at hl
  rcases hl with hBefore | ⟨hSame, -⟩ | hAfter
  · exact absurd ((split_ordered hEntries).1 _ hBefore)
      (String.lt_asymm hLess)
  · exact absurd hSame.symm (String.ne_of_lt hLess)
  · exact hAfter

/-
  Of two keys with values, the lesser one comes first.  The
  entries split at it, and at the other one.
-/
theorem exists_split
    {d : Dict α}
    {k l : String}
    {v w : α}
    (hk : d.get? k = some v)
    (hl : d.get? l = some w)
    (hLess : k < l) :
    ∃ before between after,
      d.entries =
        before ++ (k, v) :: (between ++ (l, w) :: after) ∧
      d.entries =
        (before ++ (k, v) :: between) ++ (l, w) :: after := by
  rcases List.append_of_mem (mem_entries_iff.2 hk) with
    ⟨before, rest, hEntries⟩
  rcases List.append_of_mem
      (mem_after_of_lt hEntries hl hLess) with
    ⟨between, after, rfl⟩
  refine ⟨before, between, after, hEntries, ?_⟩
  rw [hEntries, List.append_assoc, List.cons_append]

/- A new value stands where the old one stood. -/
theorem entries_insert_of_split
    {d : Dict α}
    {k : String}
    {v : α}
    {before after : List (String × α)}
    (hEntries : d.entries = before ++ (k, v) :: after)
    (w : α) :
    (d.insert k w).entries = before ++ (k, w) :: after := by
  have hBefore := (split_ordered hEntries).1
  have hInsert : (d.insert k w).entries =
      insertEntry k w d.entries := rfl
  rw [hInsert, hEntries]
  clear hInsert hEntries
  induction before with
  | nil => simp [insertEntry]
  | cons e rest ih =>
      rw [List.forall_mem_cons] at hBefore
      rw [List.cons_append, insertEntry,
        if_neg (String.lt_asymm hBefore.1),
        if_pos hBefore.1, ih hBefore.2, List.cons_append]

/- What stood around a removed key closes up. -/
theorem entries_erase_of_split
    {d : Dict α}
    {k : String}
    {v : α}
    {before after : List (String × α)}
    (hEntries : d.entries = before ++ (k, v) :: after) :
    (d.erase k).entries = before ++ after := by
  have hSplit := split_ordered hEntries
  have hErase : (d.erase k).entries =
      d.entries.filter fun e => e.1 != k := rfl
  rw [hErase, hEntries, List.filter_append, List.filter_cons,
    bne_self_eq_false, if_neg (by decide),
    List.filter_eq_self.2, List.filter_eq_self.2]
  · intro e hMem
    exact bne_iff_ne.2 (String.ne_of_lt (hSplit.2 e hMem)).symm
  · intro e hMem
    exact bne_iff_ne.2 (String.ne_of_lt (hSplit.1 e hMem))

end Dict

end DeviceHub
