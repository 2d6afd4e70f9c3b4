import DeviceHub.Dict
import DeviceHub.Json.Token

/-
  Binary fields of fixed form: numbers in little-endian
  order, texts and maps with their length in front.

  A reader takes a field from the front of the bytes and
  returns what follows it.

  Key definitions include:
    * `Wire.Reader`
    * `Wire.putNat`
    * `Wire.text`
    * `Wire.dict`
-/

namespace DeviceHub

namespace Wire

------------------------------------------------------------
-- Writing
------------------------------------------------------------

/- A number in `width` bytes, the lowest first. -/
def putNat : (width : Nat) → Nat → List UInt8
  | 0, _ => []
  | width + 1, n =>
      UInt8.ofNat (n % 256) :: putNat width (n / 256)

/- A truth value in one byte. -/
def putBool
    (b : Bool) : List UInt8 :=
  [if b then 1 else 0]

/- A signed number in eight bytes. -/
def putInt64
    (n : Int) : List UInt8 :=
  putNat 8 (n % Int.ofNat (Word.count 64)).toNat

/- A floating-point number in eight bytes. -/
def putReal
    (x : Binary64) : List UInt8 :=
  putNat 8 x.bits.toNat

/- A text after its length in bytes. -/
def putText
    (s : String) : List UInt8 :=
  let bytes := Json.utf8 s
  putNat 8 bytes.length ++ bytes

/- A byte that says whether a value follows, and the value. -/
def putOption
    {α : Type}
    (put : α → List UInt8)
    (x : Option α) : List UInt8 :=
  match x with
  | none => [0]
  | some x => 1 :: put x

/- A map after its number of entries, in order. -/
def putDict
    {α : Type}
    (put : α → List UInt8)
    (d : Dict α) : List UInt8 :=
  putNat 8 d.size ++
    d.entries.flatMap fun e => putText e.1 ++ put e.2

------------------------------------------------------------
-- Reading
------------------------------------------------------------

/- Take a field from the front of the bytes. -/
abbrev Reader (α : Type) :=
  List UInt8 → Option (α × List UInt8)

/- A number in `width` bytes. -/
def nat : (width : Nat) → Reader Nat
  | 0, bytes => some (0, bytes)
  | _ + 1, [] => none
  | width + 1, b :: rest =>
      (nat width rest).map fun r =>
        (b.toNat + 256 * r.1, r.2)

/- A truth value; other bytes than 0 and 1 are refused. -/
def bool : Reader Bool
  | 0 :: rest => some (false, rest)
  | 1 :: rest => some (true, rest)
  | _ => none

/- A signed number. -/
def int64 : Reader Int :=
  fun bytes =>
    (nat 8 bytes).map fun r =>
      (Int.bmod (Int.ofNat r.1) (Word.count 64), r.2)

/- A floating-point number. -/
def real : Reader Binary64 :=
  fun bytes =>
    (nat 8 bytes).map fun r => (⟨UInt64.ofNat r.1⟩, r.2)

/- A text. -/
def text : Reader String :=
  fun bytes => do
    let (length, rest) ← nat 8 bytes
    if rest.length < length then
      none
    else
      let s ← Json.utf8? (rest.take length)
      some (s, rest.drop length)

/- A value that may be absent. -/
def option
    {α : Type}
    (r : Reader α) : Reader (Option α) :=
  fun bytes => do
    let (present, rest) ← bool bytes
    if present then
      let (x, rest) ← r rest
      some (some x, rest)
    else
      some (none, rest)

/-
  The remaining entries of a map.  An entry takes at least
  the eight bytes of its key's length, so the bytes bound
  how many there can be.
-/
def entries
    {α : Type}
    (r : Reader α)
    (found : Dict α) :
    (count room : Nat) → Reader (Dict α)
  | 0, _, bytes => some (found, bytes)
  | _ + 1, 0, _ => none
  | count + 1, room + 1, bytes => do
      let (k, rest) ← text bytes
      let (v, rest) ← r rest
      entries r (found.insert k v) count room rest

/- A map; of equal keys the last wins. -/
def dict
    {α : Type}
    (r : Reader α) : Reader (Dict α) :=
  fun bytes => do
    let (count, rest) ← nat 8 bytes
    entries r .empty count rest.length rest

end Wire

end DeviceHub
