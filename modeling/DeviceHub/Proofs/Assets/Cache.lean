import DeviceHub.Assets.Cache
import Mathlib.Algebra.Group.Nat.Defs
import Mathlib.Data.Finset.Card

/-
  A cache after any calls: what it finds and what it counts,
  told from the calls alone.

  Under a key stands the value that was put there last, if no
  later call has taken it out.

  Key definitions include:
    * `CacheRequest.settles`
    * `CacheRequest.Leaves`
    * `Cache.Metered`

  Main statements:
    * `CacheRequest.leaves_append_iff`
    * `Cache.Metered.step`
    * `Cache.metered_run`
    * `Cache.meters_exactly`
-/

namespace DeviceHub

------------------------------------------------------------
-- What Calls Leave Under a Key
------------------------------------------------------------

namespace CacheRequest

variable {α κ : Type}

/- Whether a call decides what stands under a key. -/
def settles
    [DecidableEq κ]
    (key : κ) : CacheRequest α κ → Bool
  | get _ => false
  | put k _ => k == key
  | remove k => k == key
  | clear => true

/-
  A value was put under a key, and no later call has put
  another there or taken it out.
-/
def Leaves
    [DecidableEq κ]
    (requests : List (CacheRequest α κ))
    (key : κ)
    (value : α) : Prop :=
  ∃ before after,
    requests = before ++ put key value :: after ∧
      ∀ r ∈ after, r.settles key = false

variable [DecidableEq κ]
variable {requests : List (CacheRequest α κ)}
variable {key : κ}
variable {value : α}

theorem not_leaves_nil :
    ¬ Leaves ([] : List (CacheRequest α κ)) key value := by
  rintro ⟨before, after, hSplit, -⟩
  exact List.cons_ne_nil _ _
    (List.append_eq_nil_iff.1 hSplit.symm).2

/- One more call leaves a value if it puts it or spares it. -/
theorem leaves_append_iff
    (r : CacheRequest α κ) :
    Leaves (requests ++ [r]) key value ↔
      r = put key value ∨
        (r.settles key = false ∧
          Leaves requests key value) := by
  constructor
  · rintro ⟨before, after, hSplit, hSpared⟩
    rcases concat_eq_split_iff.1 hSplit with
      ⟨-, hLast, -⟩ | ⟨rest, hFirst, rfl⟩
    · exact .inl hLast
    · refine .inr ⟨hSpared r (by simp), before, rest, hFirst,
        fun q hMem => hSpared q ?_⟩
      exact List.mem_append_left _ hMem
  · rintro (rfl | ⟨hSpared, before, after, rfl, hAfter⟩)
    · exact ⟨requests, [], rfl, nofun⟩
    · refine ⟨before, after ++ [r], by simp, ?_⟩
      intro q hMem
      rcases List.mem_append.1 hMem with hOld | hNew
      · exact hAfter q hOld
      · rw [List.mem_singleton.1 hNew]
        exact hSpared

end CacheRequest

------------------------------------------------------------
-- One Call
------------------------------------------------------------

namespace Cache

variable {α κ : Type} [DecidableEq κ]
variable {c : Cache α κ}
variable {turns : List (CacheTurn α κ)}

/- What a cache holds and counts after some turns. -/
structure Metered
    (c : Cache α κ)
    (turns : List (CacheTurn α κ)) : Prop where
  entries : ∀ key value, c.entries.get? key = some value ↔
    CacheRequest.Leaves (turns.map (·.request)) key value
  requests : c.requests =
    turns.countP fun t => t.request.isGet
  hits : c.hits = turns.countP CacheTurn.isHit

theorem metered_new
    (name : String) :
    (Cache.new name : Cache α κ).Metered [] := by
  refine ⟨fun key value => ?_, rfl, rfl⟩
  exact iff_of_false nofun CacheRequest.not_leaves_nil

/- What was found under a key is what stands there. -/
theorem answer_get
    (c : Cache α κ)
    (key : κ) :
    (c.step (.get key)).1 = .value (c.entries.get? key) := rfl

theorem answer_remove
    (c : Cache α κ)
    (key : κ) :
    (c.step (.remove key)).1 =
      .value (c.entries.get? key) := rfl

/- A turn counts once, and once more if it is a hit. -/
theorem counters_step
    (c : Cache α κ)
    (request : CacheRequest α κ) :
    (c.step request).2.requests =
        c.requests + [(⟨request, (c.step request).1⟩ :
          CacheTurn α κ)].countP (·.request.isGet) ∧
      (c.step request).2.hits =
        c.hits + [(⟨request, (c.step request).1⟩ :
          CacheTurn α κ)].countP CacheTurn.isHit := by
  cases request with
  | get key =>
      refine ⟨rfl, ?_⟩
      simp only [step, get]
      cases c.entries.get? key <;> rfl
  | put | remove | clear => exact ⟨rfl, rfl⟩

/- What stands under a key after one more call. -/
theorem get?_step
    (c : Cache α κ)
    (request : CacheRequest α κ)
    (key : κ)
    (value : α) :
    (c.step request).2.entries.get? key = some value ↔
      request = .put key value ∨
        (request.settles key = false ∧
          c.entries.get? key = some value) := by
  cases request with
  | get k => simp [step, get, CacheRequest.settles]
  | put k v =>
      simp only [step, put, KeyMap.get?_insert,
        CacheRequest.settles, CacheRequest.put.injEq,
        beq_eq_false_iff_ne]
      by_cases hKey : k = key
      · subst hKey
        simp
      · simp [hKey, Ne.symm hKey]
  | remove k =>
      simp only [step, remove, KeyMap.get?_erase,
        CacheRequest.settles, beq_eq_false_iff_ne]
      by_cases hKey : k = key
      · subst hKey
        simp
      · simp [hKey, Ne.symm hKey]
  | clear => simp [step, clear, CacheRequest.settles]

theorem Metered.step
    (hMetered : c.Metered turns)
    (request : CacheRequest α κ) :
    (c.step request).2.Metered
      (turns ++ [⟨request, (c.step request).1⟩]) := by
  constructor
  · intro key value
    rw [c.get?_step, List.map_append, List.map_singleton,
      CacheRequest.leaves_append_iff, hMetered.entries]
  · rw [List.countP_append, ← hMetered.requests]
    exact (c.counters_step request).1
  · rw [List.countP_append, ← hMetered.hits]
    exact (c.counters_step request).2

------------------------------------------------------------
-- Any Number of Calls
------------------------------------------------------------

/- The turns are those of the calls, in order. -/
theorem requests_run
    (c : Cache α κ)
    (requests : List (CacheRequest α κ)) :
    (c.run requests).1.map (·.request) = requests :=
  map_runAll (fun _ _ => rfl) c requests

theorem metered_run
    (name : String)
    (requests : List (CacheRequest α κ)) :
    ((Cache.new name : Cache α κ).run requests).2.Metered
      ((Cache.new name : Cache α κ).run requests).1 :=
  runAll_induct
    (P := fun _ turns (c : Cache α κ) => c.Metered turns)
    (fun _ _ _ request hMetered => hMetered.step request)
    (metered_new name) requests

/- No more look-ups have found something than were made. -/
omit [DecidableEq κ] in
theorem countP_isHit_le
    (turns : List (CacheTurn α κ)) :
    turns.countP CacheTurn.isHit ≤
      turns.countP (·.request.isGet) := by
  refine List.countP_mono_left fun t _ hHit => ?_
  rcases t with ⟨request, answer⟩
  cases request with
  | get key => rfl
  | put | remove | clear => cases hHit

/- The keys in use are those under which something stands. -/
theorem Metered.size_eq
    (hMetered : c.Metered turns) :
    ∃ keys : Finset κ,
      (∀ key, key ∈ keys ↔ ∃ value,
        CacheRequest.Leaves (turns.map (·.request)) key
          value) ∧
      c.entries.size = keys.card := by
  refine ⟨c.entries.keys.toFinset, fun key => ?_, ?_⟩
  · rw [List.mem_toFinset, KeyMap.mem_keys_iff,
      Option.isSome_iff_exists]
    exact exists_congr fun value => hMetered.entries key value
  · rw [List.toFinset_card_of_nodup c.entries.nodup_keys,
      KeyMap.length_keys]

/-
  After any calls of a new cache, whatever its keys are, a
  look-up and a removal find what the calls have left under
  the key.  The requests are the look-ups so far and the hits
  those that have found something; while the look-ups can be
  counted in a word, so can both.  The elements are the keys
  with a value.  No call lowers a counter, and none but a
  look-up changes one.
-/
theorem meters_exactly
    (name : String)
    (requests : List (CacheRequest α κ)) :
    let r := (Cache.new name : Cache α κ).run requests
    let c := r.2
    (∀ key, ∃ found,
      (c.step (.get key)).1 = .value found ∧
      (c.step (.remove key)).1 = .value found ∧
      ∀ value, found = some value ↔
        CacheRequest.Leaves requests key value) ∧
    c.stats.requestCount = requests.countP (·.isGet) ∧
    c.stats.hitCount = r.1.countP CacheTurn.isHit ∧
    c.stats.hitCount ≤ c.stats.requestCount ∧
    (requests.countP (·.isGet) < 2 ^ 64 →
      c.stats.requestCount < 2 ^ 64 ∧
        c.stats.hitCount < 2 ^ 64) ∧
    (∃ keys : Finset κ,
      (∀ key, key ∈ keys ↔
        ∃ value, CacheRequest.Leaves requests key value) ∧
      c.stats.elementCount = keys.card) ∧
    ∀ request,
      let c' := (c.step request).2
      c.stats.requestCount ≤ c'.stats.requestCount ∧
      c.stats.hitCount ≤ c'.stats.hitCount ∧
      (request.isGet = false →
        c'.stats.requestCount = c.stats.requestCount ∧
          c'.stats.hitCount = c.stats.hitCount) := by
  intro r c
  have hMetered : c.Metered r.1 :=
    metered_run name requests
  have hTurns : r.1.map (·.request) = requests :=
    requests_run _ requests
  have hRequests :
      c.stats.requestCount = requests.countP (·.isGet) := by
    rw [← hTurns, List.countP_map]
    exact hMetered.requests
  have hHits :
      c.stats.hitCount = r.1.countP CacheTurn.isHit :=
    hMetered.hits
  have hLe : c.stats.hitCount ≤ c.stats.requestCount := by
    rw [hHits]
    exact (countP_isHit_le r.1).trans_eq hMetered.requests.symm
  refine ⟨fun key => ?_, hRequests, hHits, hLe, fun hWord => ?_,
    ?_, fun request => ?_⟩
  · refine ⟨c.entries.get? key, c.answer_get key,
      c.answer_remove key, fun value => ?_⟩
    rw [← hTurns]
    exact hMetered.entries key value
  · rw [← hRequests] at hWord
    exact ⟨hWord, hLe.trans_lt hWord⟩
  · rw [← hTurns]
    exact hMetered.size_eq
  · rcases c.counters_step request with ⟨hMore, hFound⟩
    refine ⟨Nat.le.intro hMore.symm, Nat.le.intro hFound.symm,
      fun hOther => ?_⟩
    cases request with
    | get key => cases hOther
    | put | remove | clear => exact ⟨rfl, rfl⟩

/- A value is put, found, taken out, and no more found. -/
example :
    let r := (Cache.new "people" : Cache Nat).run
      [.get "a", .put "a" 1, .get "a", .remove "a", .get "a"]
    r.2.stats = ⟨"people", 0, 3, 1⟩ := by
  decide

end Cache

end DeviceHub
