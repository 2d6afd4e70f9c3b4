/-
  Finite maps with keys of any type that can be told apart.

  No key stands twice, so the number of entries is the number
  of keys.  The order of the entries is of no account.

  Key definitions include:
    * `KeyMap`
    * `KeyMap.get?`
    * `KeyMap.insert`
    * `KeyMap.erase`

  Main statements:
    * `KeyMap.get?_insert`
    * `KeyMap.get?_erase`
    * `KeyMap.mem_keys_iff`
-/

namespace DeviceHub

------------------------------------------------------------
-- Maps
------------------------------------------------------------

/- A finite map. -/
structure KeyMap (κ α : Type) where
  entries : List (κ × α)
  distinct : (entries.map (·.1)).Nodup

namespace KeyMap

variable {κ α : Type}

/- The map without entries. -/
def empty : KeyMap κ α :=
  ⟨[], .nil⟩

instance : Inhabited (KeyMap κ α) :=
  ⟨empty⟩

/- The keys. -/
def keys
    (m : KeyMap κ α) : List κ :=
  m.entries.map (·.1)

/- The number of keys. -/
def size
    (m : KeyMap κ α) : Nat :=
  m.entries.length

theorem nodup_keys
    (m : KeyMap κ α) :
    m.keys.Nodup :=
  m.distinct

@[simp] theorem length_keys
    (m : KeyMap κ α) :
    m.keys.length = m.size :=
  List.length_map _

variable [DecidableEq κ]

/- The value of a key. -/
def get?
    (m : KeyMap κ α)
    (k : κ) : Option α :=
  (m.entries.find? fun e => e.1 = k).map (·.2)

/- Remove a key. -/
def erase
    (m : KeyMap κ α)
    (k : κ) : KeyMap κ α :=
  ⟨m.entries.filter fun e => e.1 ≠ k,
    m.distinct.sublist (List.filter_sublist.map _)⟩

/- Give a key a value, in place of any it had. -/
def insert
    (m : KeyMap κ α)
    (k : κ)
    (v : α) : KeyMap κ α :=
  ⟨(k, v) :: (m.erase k).entries, by
    refine List.nodup_cons.2 ⟨?_, (m.erase k).distinct⟩
    simp [erase]⟩

------------------------------------------------------------
-- Look-Ups
------------------------------------------------------------

@[simp] theorem get?_empty
    (k : κ) :
    (empty : KeyMap κ α).get? k = none := rfl

theorem get?_erase
    (m : KeyMap κ α)
    (k l : κ) :
    (m.erase l).get? k =
      if k = l then none else m.get? k := by
  unfold get? erase
  rw [List.find?_filter]
  by_cases hKey : k = l
  · subst hKey
    simp
  · rw [if_neg hKey]
    congr 2
    funext e
    by_cases hEntry : e.1 = k
    · simp [hEntry, hKey]
    · simp [hEntry]

theorem get?_insert
    (m : KeyMap κ α)
    (k l : κ)
    (v : α) :
    (m.insert l v).get? k =
      if k = l then some v else m.get? k := by
  by_cases hKey : k = l
  · subst hKey
    simp [get?, insert]
  · have hErase := m.get?_erase k l
    rw [if_neg hKey] at hErase ⊢
    rw [← hErase]
    simp [get?, insert, Ne.symm hKey]

/- The keys are those with a value. -/
theorem mem_keys_iff
    {m : KeyMap κ α}
    {k : κ} :
    k ∈ m.keys ↔ (m.get? k).isSome = true := by
  simp [keys, get?, Option.isSome_map]

end KeyMap

end DeviceHub
