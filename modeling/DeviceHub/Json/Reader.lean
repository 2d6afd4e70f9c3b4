import DeviceHub.Instant.Parser
import DeviceHub.Json.Document
import DeviceHub.Json.Value

/-
  Reading values of a type out of a JSON document.

  A value that is skipped needs correct form only.  Some
  types have to see all their fields before they know what
  to read; such a value is held as a whole first, and is
  then checked in full.

  Key definitions include:
    * `Json.Place`
    * `Json.Reader`
    * `Json.Members`
    * `Json.Members.of?`
    * `Json.Members.flattened?`
    * `Json.Members.tagged?`
    * `Json.Reader.ofText`
-/

namespace DeviceHub

namespace Json

------------------------------------------------------------
-- Readers
------------------------------------------------------------

/-
  Where a value stands: how many lists and records are
  around it, and whether it was held as a whole before it is
  read.
-/
structure Place where
  depth : Nat
  held : Bool

/- Levels of nesting that a value read in full may have. -/
def maxDepth : Nat := 127

namespace Place

/- The place of the whole document. -/
def root : Place :=
  ⟨0, false⟩

/- The place of the parts of a value. -/
def inside
    (p : Place) : Place :=
  ⟨p.depth + 1, p.held⟩

/- The same place, after the value has been held. -/
def hold
    (p : Place) : Place :=
  ⟨p.depth, true⟩

/- Whether a value at this place may be held. -/
def admits
    (p : Place)
    (d : Document) : Bool :=
  d.isSound (maxDepth - p.depth)

end Place

/- How to read a value of a type. -/
abbrev Reader (α : Type) :=
  Place → Document → Option α

namespace Reader

variable {α : Type}

/- A text. -/
def text : Reader String :=
  fun _ d =>
    match d with
    | .text t => t.decode?
    | _ => none

/- A truth value. -/
def bool : Reader Bool :=
  fun _ d =>
    match d with
    | .bool b => some b
    | _ => none

/- An integer within bounds. -/
def int
    (low high : Int) : Reader Int :=
  fun _ d =>
    match d with
    | .number n =>
        n.integer?.filter fun v => low ≤ v && v ≤ high
    | _ => none

/- A natural number of at most `bits` bits. -/
def nat
    (bits : Nat) : Reader Nat :=
  fun p d =>
    (int 0 (Int.ofNat (Word.count bits) - 1) p d).map
      Int.toNat

/- A floating-point number, which may be written whole. -/
def real : Reader Binary64 :=
  fun _ d =>
    match d with
    | .number n => n.real?
    | _ => none

/- An instant. -/
def instant : Reader Instant :=
  fun p d => (text p d).bind Instant.parse?

/- A value or null. -/
def option
    (r : Reader α) : Reader (Option α) :=
  fun p d =>
    match d with
    | .null => some none
    | d => (r p d).map some

/- A list. -/
def list
    (r : Reader α) : Reader (List α) :=
  fun p d =>
    match d with
    | .list items => items.mapM (r p.inside)
    | _ => none

/- A map; of equal keys the last wins. -/
def dict
    (r : Reader α) : Reader (Dict α) :=
  fun p d =>
    match d with
    | .record fields => do
        let pairs ← fields.mapM fun e => do
          let k ← e.1.decode?
          let v ← r p.inside e.2
          some (k, v)
        some (Dict.ofList pairs)
    | _ => none

/- A map of texts. -/
def textDict : Reader (Dict String) :=
  dict text

/-
  A choice written as its name, or as a record whose only
  field has that name and holds what goes with it.
-/
def choice
    (plain : String → Option α)
    (withValue : String → Reader α) : Reader α :=
  fun p d =>
    match d with
    | .text t => t.decode?.bind plain
    | .record [(k, v)] => do
        let name ← k.decode?
        let empty :=
          match v with
          | .null => true
          | .record [] => p.held
          | _ => false
        match plain name with
        | some a => if empty then some a else none
        | none => withValue name p.inside v
    | _ => none

/- A choice among names only. -/
def name
    (options : List (String × α)) : Reader α :=
  choice (fun k => options.lookup k) (fun _ _ _ => none)

mutual

/-
  Any value at all; of fields with equal keys the last wins.
-/
def anyValue? : Document → Option Json
  | .null => some .null
  | .bool b => some (.bool b)
  | .number n =>
      (n.integer?.map Json.int).or (n.real?.map Json.real)
  | .text t => t.decode?.map Json.text
  | .list items => (anyValues? items).map Json.list
  | .record fields =>
      (anyFields? fields).map fun fs =>
        .record (Dict.ofList fs).entries

/- Several values. -/
def anyValues? : List Document → Option (List Json)
  | [] => some []
  | d :: rest => do
      let j ← anyValue? d
      let js ← anyValues? rest
      some (j :: js)

/- The fields of a record. -/
def anyFields? :
    List (RawText × Document) →
      Option (List (String × Json))
  | [] => some []
  | (k, d) :: rest => do
      let name ← k.decode?
      let j ← anyValue? d
      let fs ← anyFields? rest
      some ((name, j) :: fs)

end

/- Any value at all. -/
def value : Reader Json :=
  fun _ d => anyValue? d

/- Read a whole text. -/
def ofBytes
    (r : Reader α)
    (bytes : List UInt8) : Option α :=
  (Document.parse? bytes).bind (r Place.root)

/- Read a whole text. -/
def ofText
    (r : Reader α)
    (s : String) : Option α :=
  r.ofBytes (utf8 s)

end Reader

------------------------------------------------------------
-- Members of a Structure
------------------------------------------------------------

/-
  The members of a structure found in a document, by name.
  A list gives them by position; then a member may be left
  out only if it has a default.
-/
structure Members where
  place : Place
  byPosition : Bool
  found : List (String × Document)

namespace Members

variable {α : Type}

/-
  Collect the members with the given names; none of them may
  be repeated, and other fields are passed over.
-/
def collect?
    (names : List String)
    (found : List (String × Document)) :
    List (String × Document) →
      Option (List (String × Document))
  | [] => some found
  | (k, d) :: rest =>
      if names.contains k then
        if (found.lookup k).isSome then
          none
        else
          collect? names ((k, d) :: found) rest
      else
        collect? names found rest

/- The fields of a record with their names decoded. -/
def decodeNames?
    (fields : List (RawText × Document)) :
    Option (List (String × Document)) :=
  fields.mapM fun e => e.1.decode?.map fun k => (k, e.2)

/- Members given by position, none beyond the last name. -/
def ofItems?
    (names : List String)
    (p : Place)
    (items : List Document) : Option Members :=
  if items.length ≤ names.length then
    some ⟨p.inside, true, names.zip items⟩
  else
    none

/- The members of a structure with the given names. -/
def of?
    (names : List String) : Reader Members :=
  fun p d =>
    match d with
    | .record fields => do
        let fields ← decodeNames? fields
        let found ← collect? names [] fields
        some ⟨p.inside, false, found⟩
    | .list items => ofItems? names p items
    | _ => none

/-
  The members of a structure that holds another one's
  fields beside its own: its members, and the fields left
  for the other, which are held.
-/
def flattened?
    (names : List String) :
    Reader (Members × List (String × Document)) :=
  fun p d =>
    match d with
    | .record fields => do
        let fields ← decodeNames? fields
        let found ← collect? names [] fields
        let rest := fields.filter fun e => !names.contains e.1
        if rest.all fun e => p.inside.admits e.2 then
          some (⟨p.inside, false, found⟩, rest)
        else
          none
    | _ => none

/- The members among fields that are held. -/
def ofHeld?
    (names : List String)
    (p : Place)
    (fields : List (String × Document)) : Option Members :=
  (collect? names [] fields).map fun found =>
    ⟨p.hold, false, found⟩

/- The text of a tag, or the position of its name. -/
def tagName?
    (tags : List String)
    (p : Place)
    (d : Document) : Option String :=
  match d with
  | .text t => t.decode?
  | .number n =>
      if p.held then
        (n.integer?.filter (0 ≤ ·)).bind fun i =>
          tags[i.toNat]?
      else
        none
  | _ => none

/-
  What a record with a tag holds: the tag and the fields,
  or the tag and the items after it.
-/
inductive Tagged where
  | fields
      (tag : String)
      (rest : List (String × Document))
  | items
      (tag : String)
      (rest : List Document)

/- The tag among decoded fields that are held. -/
def taggedFields?
    (key : String)
    (tags : List String)
    (p : Place)
    (fields : List (String × Document)) : Option Tagged := do
  let found ← collect? [key] [] fields
  let tag ← found.lookup key
  let tag ← tagName? tags p tag
  some (.fields tag (fields.filter fun e => e.1 != key))

/- A value with a tag; the whole of it is held. -/
def tagged?
    (key : String)
    (tags : List String) : Reader Tagged :=
  fun p d =>
    if p.admits d then
      match d with
      | .record fields => do
          let fields ← decodeNames? fields
          taggedFields? key tags p fields
      | .list (tag :: rest) => do
          let tag ← tagName? tags p tag
          some (.items tag rest)
      | _ => none
    else
      none

/- The tag that was found. -/
def Tagged.tag : Tagged → String
  | .fields tag _ => tag
  | .items tag _ => tag

/- The members that stand beside the tag. -/
def Tagged.members?
    (t : Tagged)
    (names : List String)
    (p : Place) : Option Members :=
  match t with
  | .fields _ rest => ofHeld? names p.inside rest
  | .items _ rest => ofItems? names p.hold rest

/- A member that must be there. -/
def required
    (m : Members)
    (name : String)
    (r : Reader α) : Option α :=
  (m.found.lookup name).bind (r m.place)

/- A member that may be null or, by name, left out. -/
def optional
    (m : Members)
    (name : String)
    (r : Reader α) : Option (Option α) :=
  match m.found.lookup name with
  | some d => Reader.option r m.place d
  | none => if m.byPosition then none else some none

/- A member that has a default when it is left out. -/
def withDefault
    (m : Members)
    (name : String)
    (default : α)
    (r : Reader α) : Option α :=
  match m.found.lookup name with
  | some d => r m.place d
  | none => some default

/- A member that may be null or left out. -/
def optionalDefault
    (m : Members)
    (name : String)
    (r : Reader α) : Option (Option α) :=
  m.withDefault name none (Reader.option r)

end Members

end Json

end DeviceHub
