/-
  Finite maps with text keys, kept in the order of the keys.

  The entries are strictly ordered, so a map has one form
  only: two maps with the same look-ups are equal.

  Key definitions include:
    * `Dict`
    * `Dict.get?`
    * `Dict.insert`
    * `Dict.erase`
    * `Dict.ofList`
    * `Dict.union`
-/

namespace DeviceHub

------------------------------------------------------------
-- Ordered Entries
------------------------------------------------------------

/- Put a key's value at its place among ordered entries. -/
def insertEntry
    {α : Type}
    (k : String)
    (v : α) :
    List (String × α) → List (String × α)
  | [] => [(k, v)]
  | (l, w) :: rest =>
      if k < l then (k, v) :: (l, w) :: rest
      else if l < k then (l, w) :: insertEntry k v rest
      else (k, v) :: rest

/- The order of the entries of a map. -/
def OrderedEntries
    {α : Type}
    (entries : List (String × α)) : Prop :=
  entries.Pairwise fun a b => a.1 < b.1

theorem mem_insertEntry
    {α : Type}
    {k : String}
    {v : α}
    {entries : List (String × α)}
    {e : String × α}
    (h : e ∈ insertEntry k v entries) :
    e = (k, v) ∨ e ∈ entries := by
  induction entries with
  | nil => simpa [insertEntry] using h
  | cons head rest ih =>
      obtain ⟨l, w⟩ := head
      simp only [insertEntry] at h
      split at h
      · simpa using h
      · split at h
        · rcases List.mem_cons.1 h with h | h
          · exact .inr (h ▸ List.mem_cons_self)
          · rcases ih h with h | h
            · exact .inl h
            · exact .inr (List.mem_cons_of_mem _ h)
        · rcases List.mem_cons.1 h with h | h
          · exact .inl h
          · exact .inr (List.mem_cons_of_mem _ h)

theorem OrderedEntries.insertEntry
    {α : Type}
    {k : String}
    {v : α}
    {entries : List (String × α)}
    (h : OrderedEntries entries) :
    OrderedEntries (insertEntry k v entries) := by
  induction entries with
  | nil =>
      simp [OrderedEntries, DeviceHub.insertEntry]
  | cons head rest ih =>
      obtain ⟨l, w⟩ := head
      have hRest := List.pairwise_cons.1 h
      simp only [DeviceHub.insertEntry]
      split
      · rename_i hlt
        refine List.pairwise_cons.2 ⟨?_, h⟩
        intro e he
        rcases List.mem_cons.1 he with he | he
        · exact he ▸ hlt
        · exact String.lt_trans hlt (hRest.1 e he)
      · rename_i hnlt
        split
        · rename_i hlt
          refine List.pairwise_cons.2 ⟨?_, ih hRest.2⟩
          intro e he
          rcases mem_insertEntry he with he | he
          · exact he ▸ hlt
          · exact hRest.1 e he
        · rename_i hngt
          have hEq : k = l := by
            rcases Decidable.em (k = l) with h | h
            · exact h
            · exact absurd
                (Std.lt_of_le_of_ne hnlt
                  (fun h' => h h'.symm)) hngt
          refine List.pairwise_cons.2 ⟨?_, hRest.2⟩
          intro e he
          exact hEq ▸ hRest.1 e he

------------------------------------------------------------
-- Maps
------------------------------------------------------------

/- A finite map from texts. -/
structure Dict (α : Type) where
  entries : List (String × α)
  ordered : OrderedEntries entries

namespace Dict

variable {α : Type}

/- The map without entries. -/
def empty : Dict α :=
  ⟨[], .nil⟩

instance : Inhabited (Dict α) :=
  ⟨empty⟩

/- The value of a key. -/
def get?
    (d : Dict α)
    (k : String) : Option α :=
  d.entries.lookup k

/- Whether a key has a value. -/
def contains
    (d : Dict α)
    (k : String) : Bool :=
  (d.get? k).isSome

/- Give a key a value, in place of any it had. -/
def insert
    (d : Dict α)
    (k : String)
    (v : α) : Dict α :=
  ⟨insertEntry k v d.entries, d.ordered.insertEntry⟩

/- Keep the entries that pass a test. -/
def filter
    (d : Dict α)
    (keep : String → α → Bool) : Dict α :=
  ⟨d.entries.filter fun e => keep e.1 e.2,
    d.ordered.filter _⟩

/- Remove a key. -/
def erase
    (d : Dict α)
    (k : String) : Dict α :=
  d.filter fun l _ => l != k

/- Apply a function to every value. -/
def map
    {β : Type}
    (d : Dict α)
    (f : α → β) : Dict β :=
  ⟨d.entries.map fun e => (e.1, f e.2), by
    have h := d.ordered
    simpa [OrderedEntries, List.pairwise_map] using h⟩

/- The keys, in order. -/
def keys
    (d : Dict α) : List String :=
  d.entries.map (·.1)

/- The number of keys. -/
def size
    (d : Dict α) : Nat :=
  d.entries.length

/- Add pairs one after the other; later ones win. -/
def insertAll
    (d : Dict α)
    (pairs : List (String × α)) : Dict α :=
  pairs.foldl (fun d e => d.insert e.1 e.2) d

/- The map of a list of pairs; of equal keys the last wins. -/
def ofList
    (pairs : List (String × α)) : Dict α :=
  empty.insertAll pairs

/- Both maps together; the second one wins. -/
def union
    (d e : Dict α) : Dict α :=
  d.insertAll e.entries

end Dict

end DeviceHub
