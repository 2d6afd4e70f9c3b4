import DeviceHub.Dict

/-
  Values of configuration documents in TOML, and reading
  them into other types.

  Floating-point numbers have no use in this program's
  configuration; only their presence is kept.  A date or a
  time stands for a table with one field, its text.

  Key definitions include:
    * `Toml`
    * `Toml.fields?`
    * `Toml.Reader`
    * `Toml.Members`
-/

namespace DeviceHub

------------------------------------------------------------
-- Values
------------------------------------------------------------

/- A TOML value. -/
inductive Toml where
  | text (s : String)
  | int (n : Int)
  | bool (b : Bool)
  | real
  | moment (s : String)
  | list (items : List Toml)
  | table (fields : List (String × Toml))
  deriving Inhabited

namespace Toml

/- The name of the only field of a date or a time. -/
def momentField : String :=
  "$__toml_private_datetime"

/- The fields of what can be taken for a table. -/
def fields? : Toml → Option (List (String × Toml))
  | .table fields => some fields
  | .moment s => some [(momentField, .text s)]
  | _ => none

------------------------------------------------------------
-- Readers
------------------------------------------------------------

/- How to read a value of a type. -/
abbrev Reader (α : Type) :=
  Toml → Option α

namespace Reader

variable {α : Type}

/- A text. -/
def text : Reader String
  | .text s => some s
  | _ => none

/- A truth value. -/
def bool : Reader Bool
  | .bool b => some b
  | _ => none

/- A natural number. -/
def nat : Reader Nat
  | .int n => if 0 ≤ n then some n.toNat else none
  | _ => none

/- A list. -/
def list
    (r : Reader α) : Reader (List α)
  | .list items => items.mapM r
  | _ => none

/- A map of texts. -/
def textDict : Reader (Dict String) :=
  fun v => do
    let fields ← v.fields?
    let pairs ← fields.mapM fun e =>
      (text e.2).map fun s => (e.1, s)
    some (Dict.ofList pairs)

/- Whether a value is an empty list or table. -/
def isEmpty : Toml → Bool
  | .list items => items.isEmpty
  | .table fields => fields.isEmpty
  | _ => false

/-
  A choice among names, written as the name or as a table
  whose only key is the name and holds nothing.
-/
def name
    (options : List (String × α)) : Reader α
  | .text s => options.lookup s
  | .table [(k, v)] =>
      if isEmpty v then options.lookup k else none
  | _ => none

end Reader

------------------------------------------------------------
-- Members of a Structure
------------------------------------------------------------

/- The members of a structure, by name. -/
abbrev Members :=
  List (String × Toml)

namespace Members

variable {α : Type}

/-
  The members in a table, or by position in a list; what is
  left over is passed over.
-/
def of?
    (names : List String) : Reader Members
  | .list items => some (names.zip items)
  | v => v.fields?

/- A member that must be there. -/
def required
    (m : Members)
    (name : String)
    (r : Reader α) : Option α :=
  (m.lookup name).bind r

/- A member that has a default when it is left out. -/
def withDefault
    (m : Members)
    (name : String)
    (default : α)
    (r : Reader α) : Option α :=
  match m.lookup name with
  | some v => r v
  | none => some default

/- A member that may be left out. -/
def optional
    (m : Members)
    (name : String)
    (r : Reader α) : Option (Option α) :=
  m.withDefault name none fun v => (r v).map some

end Members

end Toml

end DeviceHub
