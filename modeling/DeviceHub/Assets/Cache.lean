import DeviceHub.Json.Reader
import DeviceHub.KeyMap
import DeviceHub.Run
import DeviceHub.Text.Quoted

/-
  Caches that count how they are used.

  Every look-up is a request, and one that finds a value is
  a hit.  Nothing else moves the counters.

  Key definitions include:
    * `Cache`
    * `Cache.get`
    * `Cache.put`
    * `Cache.remove`
    * `Cache.clear`
    * `CacheStats`
    * `CacheRequest`
    * `Cache.step`
    * `Cache.run`
-/

namespace DeviceHub

------------------------------------------------------------
-- Counters
------------------------------------------------------------

/- How a cache has been used. -/
structure CacheStats where
  name : String
  elementCount : Nat
  requestCount : Nat
  hitCount : Nat
  deriving DecidableEq, Inhabited, Repr

namespace CacheStats

/- The JSON form. -/
def toJson
    (s : CacheStats) : Json :=
  .record
    [("name", .text s.name),
      ("elementCount", .nat s.elementCount),
      ("requestCount", .nat s.requestCount),
      ("hitCount", .nat s.hitCount)]

open Json in
/- Read the JSON form. -/
def reader : Reader CacheStats :=
  fun p d => do
    let m ← Members.of?
      ["name", "elementCount", "requestCount", "hitCount"] p
      d
    let name ← m.required "name" .text
    let elements ← m.required "elementCount" (.nat 64)
    let requests ← m.required "requestCount" (.nat 64)
    let hits ← m.required "hitCount" (.nat 64)
    some ⟨name, elements, requests, hits⟩

end CacheStats

------------------------------------------------------------
-- Caches
------------------------------------------------------------

/- Values by key, with counters.  Keys are texts by default. -/
structure Cache (α : Type) (κ : Type := String) where
  name : String
  entries : KeyMap κ α
  requests : Nat
  hits : Nat
  deriving Inhabited

namespace Cache

variable {α κ : Type}

/- An empty cache that has not been used. -/
def new
    (name : String) : Cache α κ :=
  ⟨name, .empty, 0, 0⟩

/- How the cache has been used. -/
def stats
    (c : Cache α κ) : CacheStats :=
  ⟨c.name, c.entries.size, c.requests, c.hits⟩

/- A description for diagnosis. -/
def describe
    (c : Cache α κ) : String :=
  "Cache \x7b name: " ++ Text.quoted c.name ++
    ", elements: " ++ toString c.entries.size ++
    ", requests: " ++ toString c.requests ++
    ", hits: " ++ toString c.hits ++ " \x7d"

/- Take all values out. -/
def clear
    (c : Cache α κ) : Cache α κ :=
  { c with entries := .empty }

variable [DecidableEq κ]

/- Look a key up. -/
def get
    (c : Cache α κ)
    (key : κ) : Option α × Cache α κ :=
  let found := c.entries.get? key
  (found, { c with
    requests := c.requests + 1
    hits := if found.isSome then c.hits + 1 else c.hits })

/- Give a key a value. -/
def put
    (c : Cache α κ)
    (key : κ)
    (value : α) : Cache α κ :=
  { c with entries := c.entries.insert key value }

/- Take a key's value out. -/
def remove
    (c : Cache α κ)
    (key : κ) : Option α × Cache α κ :=
  (c.entries.get? key,
    { c with entries := c.entries.erase key })

end Cache

------------------------------------------------------------
-- Caches in Use
------------------------------------------------------------

/- A call of a cache. -/
inductive CacheRequest (α κ : Type) where
  | get (key : κ)
  | put (key : κ) (value : α)
  | remove (key : κ)
  | clear

/- Whether a call looks a key up. -/
def CacheRequest.isGet
    {α κ : Type} : CacheRequest α κ → Bool
  | get _ => true
  | _ => false

/- What a cache answers to a call. -/
inductive CacheAnswer (α : Type) where
  | value (found : Option α)
  | done

/- A call with its answer. -/
structure CacheTurn (α κ : Type) where
  request : CacheRequest α κ
  answer : CacheAnswer α

/- Whether a key was looked up and found. -/
def CacheTurn.isHit
    {α κ : Type}
    (t : CacheTurn α κ) : Bool :=
  match t.request, t.answer with
  | .get _, .value (some _) => true
  | _, _ => false

namespace Cache

variable {α κ : Type} [DecidableEq κ]

/- Make one call. -/
def step
    (c : Cache α κ)
    (request : CacheRequest α κ) :
    CacheAnswer α × Cache α κ :=
  match request with
  | .get key =>
      let (found, c) := c.get key
      (.value found, c)
  | .put key value => (.done, c.put key value)
  | .remove key =>
      let (found, c) := c.remove key
      (.value found, c)
  | .clear => (.done, c.clear)

/- Make calls one after the other, and list their turns. -/
def run
    (c : Cache α κ)
    (requests : List (CacheRequest α κ)) :
    List (CacheTurn α κ) × Cache α κ :=
  runAll (fun c request =>
    ([⟨request, (c.step request).1⟩], (c.step request).2)) c
    requests

end Cache

end DeviceHub
