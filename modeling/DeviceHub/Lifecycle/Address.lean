import DeviceHub.Lifecycle.Tree

/-
  Components by their places in a tree.

  An address says which child to turn to at each step down
  from the root.  It tells the components of a tree apart,
  whatever they are called, and a call changes no addresses.

  Key definitions include:
    * `Address`
    * `Tree.part?`
    * `Tree.replace`
    * `Tree.callAt?`
    * `Tree.tour`
-/

namespace DeviceHub

/- Where a component stands in a tree. -/
abbrev Address :=
  List Nat

namespace Tree

variable {κ σ : Type}

------------------------------------------------------------
-- Looking and Replacing
------------------------------------------------------------

/- The part of a tree at an address. -/
def part?
    (t : Tree κ) : Address → Option (Tree κ)
  | [] => some t
  | i :: p => t.children[i]?.bind fun u => u.part? p

/- The component at an address. -/
def component?
    (t : Tree κ)
    (p : Address) : Option (Component κ) :=
  (t.part? p).map self

/- Where the component at an address stands. -/
def status?
    (t : Tree κ)
    (p : Address) : Option Status :=
  (t.part? p).map status

/- Put a tree in the place of the part at an address. -/
def replace
    (t : Tree κ)
    (u : Tree κ) : Address → Tree κ
  | [] => u
  | i :: p =>
      node t.self (t.children.modify i fun v => v.replace u p)

/- Ask the component at an address to do something. -/
def callAt?
    (hooks : Hooks κ σ)
    (action : LifecycleAction)
    (p : Address)
    (t : Tree κ)
    (s : σ) : Option (Outcome κ σ) :=
  (t.part? p).map fun u =>
    let o := u.call hooks action s
    { o with tree := t.replace o.tree p }

------------------------------------------------------------
-- Tours
------------------------------------------------------------

mutual

/-
  All components with their addresses, children in order and
  before their parents.
-/
def tour
    (t : Tree κ) : List (Address × Component κ) :=
  match t with
  | node c ts => tourAll 0 ts ++ [([], c)]

/- The tours of several trees, counted from `first`. -/
def tourAll
    (first : Nat)
    (ts : List (Tree κ)) : List (Address × Component κ) :=
  match ts with
  | [] => []
  | t :: rest =>
      (tour t).map (fun x => (first :: x.1, x.2)) ++
        tourAll (first + 1) rest

end

end Tree

end DeviceHub
