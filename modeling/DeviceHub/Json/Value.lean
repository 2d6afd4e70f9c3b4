import DeviceHub.Dict
import DeviceHub.Instant.Printer
import DeviceHub.Numeric.Binary64

/-
  JSON values, as the program writes them.

  Key definitions include:
    * `Json`
    * `Json.ofOption`
    * `Json.ofDict`
    * `Json.field?`
-/

namespace DeviceHub

------------------------------------------------------------
-- Values
------------------------------------------------------------

/- A JSON value; the fields of a record keep their order. -/
inductive Json where
  | null
  | bool (b : Bool)
  | int (n : Int)
  | real (x : Binary64)
  | text (s : String)
  | list (items : List Json)
  | record (fields : List (String × Json))
  deriving Inhabited

namespace Json

/- An absent value is written as null. -/
def ofOption
    {α : Type}
    (f : α → Json)
    (x : Option α) : Json :=
  match x with
  | some x => f x
  | none => null

/- A number without fraction. -/
def nat
    (n : Nat) : Json :=
  int (Int.ofNat n)

/- A text that may be absent. -/
def text?
    (s : Option String) : Json :=
  ofOption text s

/- A list of texts. -/
def texts
    (ss : List String) : Json :=
  list (ss.map text)

/- A map, in the order of its keys. -/
def ofDict
    {α : Type}
    (f : α → Json)
    (d : Dict α) : Json :=
  record (d.entries.map fun e => (e.1, f e.2))

/- A map of texts. -/
def textDict
    (d : Dict String) : Json :=
  ofDict text d

/- An instant is written as its text. -/
def instant
    (i : Instant) : Json :=
  text i.toText

/- The fields of a record, none for any other value. -/
def fields
    (j : Json) : List (String × Json) :=
  match j with
  | record fs => fs
  | _ => []

/- The value of a field. -/
def field?
    (j : Json)
    (name : String) : Option Json :=
  j.fields.lookup name

end Json

end DeviceHub
