import DeviceHub.Toml.Value

/-
  Tables of TOML documents while they are put together.

  A table may come up in a header of its own, as part of a
  longer header, or as part of a dotted key.  No table is
  given by two headers, a dotted key adds only to tables
  that dotted keys began, and what stands behind an equals
  sign is never added to.

  Key definitions include:
    * `Toml.TableOrigin`
    * `Toml.Node`
    * `Toml.Node.descend?`
    * `Toml.Draft`
    * `Toml.Draft.addPair?`
    * `Toml.Draft.openTable?`
    * `Toml.Draft.openItem?`
-/

namespace DeviceHub

namespace Toml

------------------------------------------------------------
-- Nodes
------------------------------------------------------------

/- How a table came up. -/
inductive TableOrigin where
  | header
  | implied
  | dotted
  deriving DecidableEq, Inhabited, Repr

/-
  A value, a table, or a list of tables under headers of
  their own; of such a list the last table is still open.
-/
inductive Node where
  | value (v : Toml)
  | table
      (origin : TableOrigin)
      (entries : List (String × Node))
  | tables
      (closed : List (List (String × Node)))
      (entries : List (String × Node))
  deriving Inhabited

namespace Node

/- The entries of a table. -/
abbrev Entries :=
  List (String × Node)

mutual

/- The value that a node stands for. -/
def toToml : Node → Toml
  | value v => v
  | table _ entries => .table (toFields entries)
  | tables closed entries =>
      .list (toTables closed ++ [.table (toFields entries)])

/- The fields that entries stand for. -/
def toFields : List (String × Node) → List (String × Toml)
  | [] => []
  | (k, n) :: rest => (k, toToml n) :: toFields rest

/- The tables that lists of entries stand for. -/
def toTables : List (List (String × Node)) → List Toml
  | [] => []
  | entries :: rest =>
      .table (toFields entries) :: toTables rest

end

/- Put a node under a key, in place of any it had. -/
def put
    (key : String)
    (n : Node) : Entries → Entries
  | [] => [(key, n)]
  | (k, m) :: rest =>
      if k == key then (k, n) :: rest
      else (k, m) :: put key n rest

/- The origin and entries of the table that is open. -/
def open? : Node → Option (TableOrigin × Entries)
  | value _ => none
  | table origin entries => some (origin, entries)
  | tables _ entries => some (.header, entries)

/- Give the table that is open new entries. -/
def setEntries
    (n : Node)
    (entries : Entries) : Node :=
  match n with
  | value v => value v
  | table origin _ => table origin entries
  | tables closed _ => tables closed entries

/- A table that a path makes on its way. -/
def fresh
    (byDots : Bool) : Node :=
  table (if byDots then .dotted else .implied) []

/- Whether a dotted key or a header may go through a node. -/
def admits
    (byDots : Bool) : Node → Bool
  | table .header _ => !byDots
  | _ => true

/-
  Change the table at the end of a path, making the tables
  on the way.
-/
def descend?
    (byDots : Bool)
    (f : TableOrigin → Entries → Option Entries) :
    List String → Node → Option Node
  | [], n => do
      let (origin, entries) ← n.open?
      let entries ← f origin entries
      some (n.setEntries entries)
  | key :: path, n => do
      let (_, entries) ← n.open?
      let next := (entries.lookup key).getD (fresh byDots)
      if next.admits byDots then
        let next ← descend? byDots f path next
        some (n.setEntries (put key next entries))
      else
        none

end Node

------------------------------------------------------------
-- Drafts
------------------------------------------------------------

/- A document in the making and the table that is open. -/
structure Draft where
  root : Node
  current : List String

namespace Draft

/- A document without entries. -/
def empty : Draft :=
  ⟨.table .header [], []⟩

/-
  Add an entry that is new.  A table reached by dots has to
  be one that dots began.
-/
def addNew?
    (byDots : Bool)
    (key : String)
    (v : Toml)
    (origin : TableOrigin)
    (entries : Node.Entries) : Option Node.Entries :=
  if (entries.lookup key).isSome then
    none
  else if byDots == (origin == .dotted) then
    some (entries ++ [(key, .value v)])
  else
    none

/- Add an entry to a table under a dotted key. -/
def addDotted?
    (key : List String)
    (v : Toml)
    (origin : TableOrigin)
    (entries : Node.Entries) : Option Node.Entries := do
  let last ← key.getLast?
  let path := key.dropLast
  let byDots := !path.isEmpty
  let n ← Node.descend? byDots (addNew? byDots last v) path
    (.table origin entries)
  let (_, entries) ← n.open?
  some entries

/- Add an entry to the table that is open. -/
def addPair?
    (d : Draft)
    (key : List String)
    (v : Toml) : Option Draft :=
  (Node.descend? false (addDotted? key v) d.current
    d.root).map fun root => { d with root := root }

/- Open the entry under a header. -/
def openWith?
    (d : Draft)
    (key : List String)
    (f : Option Node → Option Node) : Option Draft := do
  let last ← key.getLast?
  let root ← Node.descend? false
    (fun _ entries =>
      (f (entries.lookup last)).map fun n =>
        Node.put last n entries)
    key.dropLast d.root
  some ⟨root, key⟩

/- Open a table that has not had a header yet. -/
def openTable?
    (d : Draft)
    (key : List String) : Option Draft :=
  d.openWith? key fun n =>
    match n with
    | none => some (.table .header [])
    | some (.table .implied entries) =>
        some (.table .header entries)
    | some _ => none

/- Open another table of a list. -/
def openItem?
    (d : Draft)
    (key : List String) : Option Draft :=
  d.openWith? key fun n =>
    match n with
    | none => some (.tables [] [])
    | some (.tables closed entries) =>
        some (.tables (closed ++ [entries]) [])
    | some _ => none

/- The table of a list of dotted keys and values. -/
def ofPairs?
    (pairs : List (List String × Toml)) : Option Draft :=
  pairs.foldlM (fun d p => d.addPair? p.1 p.2) empty

/- The value of the whole document. -/
def toToml
    (d : Draft) : Toml :=
  d.root.toToml

end Draft

end Toml

end DeviceHub
