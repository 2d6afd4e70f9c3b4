import DeviceHub.Json.Reader
import Mathlib.Data.List.Forall2

/-
  The members of a structure, found in the document that it
  is read from.

  A member of a record is the field of its name, and a
  member of a list is the item at its name's position.
  Readers collect the members that they know; here these are
  shown to be the members of the document.

  Key definitions include:
    * `Json.Document.field?`
    * `Json.Document.member?`
    * `Json.Reader.orElse`

  Main statements:
    * `Json.Reader.list_eq_some_iff`
    * `Json.Reader.list_document`
    * `Json.Members.lookup_of_of?`
    * `Json.Members.lookup_of_flattened?`
    * `Json.Members.lookup_of_ofHeld?`
-/

namespace DeviceHub

namespace Json

------------------------------------------------------------
-- Parts of a Document
------------------------------------------------------------

namespace Document

/- The value of the first field of a name. -/
def fieldOf?
    (fields : List (RawText × Document))
    (name : String) : Option Document :=
  (fields.find? (·.1.decode? == some name)).map (·.2)

/- The field of a record with a name. -/
def field?
    (d : Document)
    (name : String) : Option Document :=
  match d with
  | record fields => fieldOf? fields name
  | _ => none

/-
  The member with a name of a structure that has members of
  the given names.
-/
def member?
    (names : List String)
    (d : Document)
    (name : String) : Option Document :=
  match d with
  | list items => (names.zip items).lookup name
  | d => d.field? name

end Document

namespace Reader

variable {α : Type}

/- A part as it is written. -/
def document : Reader Document :=
  fun _ d => some d

/- Read a part, which has a default when it is left out. -/
def orElse
    (r : Reader α)
    (default : α)
    (part : Option Document) : Option α :=
  match part with
  | some d => r .root d
  | none => some default

/- A part that may be null, and is not. -/
theorem option_of_ne_null
    {r : Reader α}
    {p : Place}
    {d : Document}
    (hNull : d ≠ .null) :
    Reader.option r p d = (r p d).map some := by
  cases d with
  | null => exact absurd rfl hNull
  | bool | number | text | list | record => rfl

/- A list is read if every item is, in order. -/
theorem list_eq_some_iff
    {r : Reader α}
    {p : Place}
    {d : Document}
    {values : List α} :
    Reader.list r p d = some values ↔
      ∃ items, d = .list items ∧
        List.Forall₂ (fun x v => r p.inside x = some v) items
          values := by
  have hItems : ∀ items : List Document,
      items.mapM (r p.inside) = some values ↔
        List.Forall₂ (fun x v => r p.inside x = some v) items
          values := by
    intro items
    induction items generalizing values with
    | nil => simp [eq_comm]
    | cons x rest ih =>
        cases values with
        | nil => simp [Option.bind_eq_some_iff]
        | cons v vs =>
            simp [Option.bind_eq_some_iff, ih]
  cases d with
  | list items =>
      simp only [Reader.list, hItems, Document.list.injEq,
        exists_eq_left']
  | null | bool | number | text | record =>
      constructor
      · intro hSome
        cases hSome
      · rintro ⟨items, hList, -⟩
        cases hList

/- Items as they are written are always read. -/
theorem list_document
    (p : Place)
    (items : List Document) :
    Reader.list document p (.list items) = some items := by
  rw [list_eq_some_iff]
  refine ⟨items, rfl, ?_⟩
  induction items with
  | nil => exact .nil
  | cons x rest ih => exact .cons rfl ih

end Reader

------------------------------------------------------------
-- Members That Are Found
------------------------------------------------------------

namespace Members

variable {names : List String}
variable {name : String}

/- Decoded names find the fields that they are names of. -/
theorem lookup_of_decodeNames?
    {fields : List (RawText × Document)}
    {decoded : List (String × Document)}
    (hDecoded : decodeNames? fields = some decoded)
    (name : String) :
    decoded.lookup name = Document.fieldOf? fields name := by
  unfold decodeNames? at hDecoded
  induction fields generalizing decoded with
  | nil =>
      cases hDecoded
      rfl
  | cons e rest ih =>
      simp only [List.mapM_cons, Option.bind_eq_bind,
        Option.bind_eq_some_iff, Option.map_eq_some_iff,
        Option.pure_def, Option.some.injEq] at hDecoded
      rcases hDecoded with
        ⟨x, ⟨k, hName, rfl⟩, others, hOthers, rfl⟩
      unfold Document.fieldOf?
      rw [List.find?_cons, hName]
      by_cases hSame : name = k
      · subst hSame
        simp
      · have hOther : (name == k) = false := by
          simpa using hSame
        have hNot : (some k == some name) = false := by
          simpa using Ne.symm hSame
        rw [List.lookup_cons, hOther, hNot]
        exact ih hOthers

/-
  A member of a known name is found if it was found before or
  is among the fields.
-/
theorem lookup_of_collect?
    {found found' fields : List (String × Document)}
    (hFound : collect? names found fields = some found')
    (hName : name ∈ names) :
    found'.lookup name =
      (found.lookup name).or (fields.lookup name) := by
  induction fields generalizing found with
  | nil =>
      cases hFound
      simp
  | cons e rest ih =>
      rcases e with ⟨k, d⟩
      simp only [collect?] at hFound
      by_cases hSame : name = k
      · subst hSame
        rw [if_pos (by simpa using hName)] at hFound
        split at hFound
        · cases hFound
        · rename_i hNew
          rw [ih hFound]
          have hNone : found.lookup name = none :=
            Option.not_isSome_iff_eq_none.1 hNew
          simp [hNone]
      · have hOther : (name == k) = false := by
          simpa using hSame
        rw [List.lookup_cons, hOther]
        split at hFound
        · split at hFound
          · cases hFound
          · rw [ih hFound, List.lookup_cons, hOther]
        · exact ih hFound

/- The members of a structure stand inside it. -/
theorem place_of_of?
    {p : Place}
    {d : Document}
    {m : Members}
    (hMembers : of? names p d = some m) :
    m.place = p.inside := by
  cases d with
  | null | bool | number | text => cases hMembers
  | record fields =>
      simp only [of?, Option.bind_eq_bind,
        Option.bind_eq_some_iff, Option.some.injEq]
        at hMembers
      rcases hMembers with ⟨-, -, -, -, rfl⟩
      rfl
  | list items =>
      simp only [of?, ofItems?,
        Option.ite_none_right_eq_some, Option.some.injEq]
        at hMembers
      rcases hMembers with ⟨-, rfl⟩
      rfl

/- The members of a structure are those of its document. -/
theorem lookup_of_of?
    {p : Place}
    {d : Document}
    {m : Members}
    (hMembers : of? names p d = some m)
    (hName : name ∈ names) :
    m.found.lookup name = d.member? names name := by
  cases d with
  | null | bool | number | text => cases hMembers
  | record fields =>
      simp only [of?, Option.bind_eq_bind,
        Option.bind_eq_some_iff, Option.some.injEq]
        at hMembers
      rcases hMembers with
        ⟨decoded, hDecoded, found, hFound, rfl⟩
      rw [lookup_of_collect? hFound hName,
        lookup_of_decodeNames? hDecoded]
      rfl
  | list items =>
      simp only [of?, ofItems?,
        Option.ite_none_right_eq_some, Option.some.injEq]
        at hMembers
      rcases hMembers with ⟨-, rfl⟩
      rfl

/- The fields that are left keep the names left to them. -/
theorem lookup_filter_of_not_mem
    {fields : List (String × Document)}
    (hName : name ∉ names) :
    (fields.filter fun e => !names.contains e.1).lookup name =
      fields.lookup name := by
  induction fields with
  | nil => rfl
  | cons e rest ih =>
      rcases e with ⟨k, d⟩
      by_cases hSame : name = k
      · subst hSame
        rw [List.filter_cons, if_pos (by simpa using hName)]
        simp
      · have hOther : (name == k) = false := by
          simpa using hSame
        rw [List.lookup_cons, hOther, List.filter_cons]
        split
        · rw [List.lookup_cons, hOther]
          exact ih
        · exact ih

/-
  A structure with another one's fields beside its own: its
  members are fields of the record, and all other fields are
  left.
-/
theorem lookup_of_flattened?
    {p : Place}
    {d : Document}
    {m : Members}
    {rest : List (String × Document)}
    (hMembers : flattened? names p d = some (m, rest)) :
    m.place = p.inside ∧
      (∀ name ∈ names, m.found.lookup name = d.field? name) ∧
      ∀ name ∉ names, rest.lookup name = d.field? name := by
  cases d with
  | null | bool | number | text | list => cases hMembers
  | record fields =>
      simp only [flattened?, Option.bind_eq_bind,
        Option.bind_eq_some_iff,
        Option.ite_none_right_eq_some, Option.some.injEq,
        Prod.mk.injEq] at hMembers
      rcases hMembers with
        ⟨decoded, hDecoded, found, hFound, -, rfl, rfl⟩
      refine ⟨rfl, ?_, ?_⟩
      · intro name hName
        rw [lookup_of_collect? hFound hName,
          lookup_of_decodeNames? hDecoded]
        rfl
      · intro name hName
        rw [lookup_filter_of_not_mem hName,
          lookup_of_decodeNames? hDecoded]
        rfl

/- The members among fields that are held. -/
theorem lookup_of_ofHeld?
    {p : Place}
    {fields : List (String × Document)}
    {m : Members}
    (hMembers : ofHeld? names p fields = some m)
    (hName : name ∈ names) :
    m.found.lookup name = fields.lookup name := by
  simp only [ofHeld?, Option.map_eq_some_iff] at hMembers
  rcases hMembers with ⟨found, hFound, rfl⟩
  rw [lookup_of_collect? hFound hName]
  rfl

------------------------------------------------------------
-- Reading a Member
------------------------------------------------------------

section Reading

variable {α : Type}
variable {m : Members}
variable {r : Reader α}
variable (hPlace : ∀ d, r m.place d = r .root d)
variable {part : Option Document}

include hPlace

/- A member that must be there is read where it is. -/
theorem required_eq
    (hPart : m.found.lookup name = part) :
    m.required name r = part.bind (r .root) := by
  unfold required
  rw [hPart]
  cases part with
  | none => rfl
  | some d => exact hPlace d

/- A member that may be left out, with its default. -/
theorem withDefault_eq
    (hPart : m.found.lookup name = part)
    (default : α) :
    m.withDefault name default r = r.orElse default part := by
  unfold withDefault
  rw [hPart]
  cases part with
  | none => rfl
  | some d => exact hPlace d

end Reading

end Members

end Json

end DeviceHub
