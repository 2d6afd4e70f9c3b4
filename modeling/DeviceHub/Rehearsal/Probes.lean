import DeviceHub.Lifecycle.Tree

/-
  Trees of probes: components that keep a journal of their
  turns and fail at the turns they are told to.

  A rig holds such trees.  Its nodes are addressed by keys;
  a key that is used again stands for the later node.  Those
  who wait for a node look at it whenever one of them comes
  or asks, and keep what they saw when their wait was over.

  Key definitions include:
    * `Probes.NodePlan`
    * `Probes.Rig`
    * `Probes.Rig.call?`
    * `Probes.Rig.lookAgain`
    * `Probes.Rig.join?`
    * `Probes.Rig.wait?`
    * `Probes.Rig.look?`
-/

namespace DeviceHub

namespace Probes

------------------------------------------------------------
-- Plans
------------------------------------------------------------

/- The error that a probe is told to answer with. -/
inductive Failure where
  | configuration (detail : String)
  | failed (reason : String)
  | other (detail : String)
  deriving DecidableEq, Inhabited, Repr

/- The error of a probe with a name. -/
def Failure.toError
    (f : Failure)
    (name : String) : LifecycleError :=
  match f with
  | configuration detail => .configuration detail
  | failed reason => .failed name reason
  | other detail => .other detail

/- The turns at which a probe fails. -/
abbrev Failures :=
  List (Hook × Failure)

/- What a node of a rig is. -/
inductive NodeForm where
  | probe
  | supervisor
  | bare
  deriving DecidableEq, Inhabited, Repr

/- A node to be made, with the nodes below it. -/
inductive NodePlan where
  | node
      (name key : String)
      (form : NodeForm)
      (kind : ComponentKind)
      (canPause : Bool)
      (policy : ChildPolicy)
      (failures : Failures)
      (children : List NodePlan)
  deriving Inhabited

------------------------------------------------------------
-- Rigs
------------------------------------------------------------

/- What the probes of a rig share. -/
structure Shared where
  journal : List String
  failures : List (Nat × Failures)
  deriving Inhabited

/- Who waits for a node, and what came of it. -/
structure Waiter where
  label : Nat
  answer : Option Status
  deriving DecidableEq, Inhabited, Repr

/- Trees of probes under examination. -/
structure Rig where
  trees : List (Tree Nat)
  keys : Dict Nat
  shared : Shared
  waiting : Dict Waiter
  looking : Dict (Nat × Nat)
  nextLabel : Nat

/- What a probe does: note the turn, then fail or not. -/
def hooks : Hooks Nat Shared :=
  fun c hook s =>
    match s.failures.lookup c.label with
    | none => (.ok (), s)
    | some failures =>
        let s := { s with
          journal := s.journal ++ [c.name ++ ":" ++ hook.name] }
        match failures.lookup hook with
        | some f => (.error (f.toError c.name), s)
        | none => (.ok (), s)

namespace Rig

/- The rig without nodes. -/
def empty : Rig :=
  ⟨[], .empty, default, .empty, .empty, 0⟩

mutual

/- Make a node and the nodes below it. -/
def make
    (r : Rig)
    (plan : NodePlan) : Rig × Tree Nat :=
  match plan with
  | .node name key form kind canPause policy failures below =>
      let label := r.nextLabel
      let isProbe := form = .probe
      let c := { Component.new label name
        (if form = .supervisor then .supervisor else kind)
        with
        policy := policy
        canPause := canPause && form != .supervisor }
      let noted :=
        if isProbe then
          (label, failures) :: r.shared.failures
        else
          r.shared.failures
      let r := { r with
        keys := r.keys.insert key label
        shared := { r.shared with failures := noted }
        nextLabel := label + 1 }
      let (r, children) := makeAll r below
      (r, .node c children)

/- Make several nodes. -/
def makeAll
    (r : Rig)
    (plans : List NodePlan) : Rig × List (Tree Nat) :=
  match plans with
  | [] => (r, [])
  | plan :: rest =>
      let (r, t) := make r plan
      let (r, ts) := makeAll r rest
      (r, t :: ts)

end

/- A rig with the planned trees. -/
def ofPlans
    (plans : List NodePlan) : Rig :=
  let (r, ts) := makeAll empty plans
  { r with trees := ts }

------------------------------------------------------------
-- Nodes of a Rig
------------------------------------------------------------

/- Replace the node with a key and report on it. -/
def visit?
    {α : Type}
    (r : Rig)
    (key : String)
    (f : Tree Nat → α × Tree Nat) : Option (α × Rig) := do
  let label ← r.keys.get? key
  let (a, trees) ← Tree.visitFirst?
    (fun c => c.label = label) f r.trees
  some (a, { r with trees := trees })

/- The node with a label. -/
def byLabel?
    (r : Rig)
    (label : Nat) : Option (Tree Nat) :=
  (Tree.partsOfAll r.trees).find? (·.self.label = label)

/- The node with a key. -/
def find?
    (r : Rig)
    (key : String) : Option (Tree Nat) :=
  (r.keys.get? key).bind r.byLabel?

/- Ask a node to do something. -/
def call?
    (r : Rig)
    (action : LifecycleAction)
    (key : String) :
    Option (Except LifecycleError Status × Rig) := do
  let ((result, shared), r) ← r.visit? key fun t =>
    let o := t.call hooks action r.shared
    ((o.result, o.state), o.tree)
  some (result, { r with shared := shared })

/- Ask a node for several things; the last answer counts. -/
def callAll?
    (r : Rig)
    (key : String) :
    List LifecycleAction →
      Option (Except LifecycleError Status × Rig)
  | [] => none
  | [action] => r.call? action key
  | action :: next :: rest => do
      let (_, r) ← r.call? action key
      callAll? r key (next :: rest)

/- Tell a probe at which turns to fail from now on. -/
def setFailures?
    (r : Rig)
    (key : String)
    (failures : Failures) : Option Rig := do
  let label ← r.keys.get? key
  let others := r.shared.failures.filter (·.1 != label)
  let known := r.shared.failures.any (·.1 == label)
  if known then
    some { r with shared := { r.shared with
      failures := (label, failures) :: others } }
  else
    some r

/- Add a planned node below another. -/
def add?
    (r : Rig)
    (key : String)
    (plan : NodePlan) : Option Rig := do
  let label ← r.keys.get? key
  let (r, child) := r.make plan
  let (_, trees) ← Tree.visitFirst?
    (fun c => c.label = label)
    (fun t => ((), t.addChild child)) r.trees
  some { r with trees := trees }

/- The journal since it was last taken. -/
def takeJournal
    (r : Rig) : List String × Rig :=
  (r.shared.journal,
    { r with shared := { r.shared with journal := [] } })

------------------------------------------------------------
-- Waiting and Looking
------------------------------------------------------------

/-
  The status that a waiter for a node has been waiting for:
  any in which work can go on.
-/
def settled?
    (r : Rig)
    (label : Nat) : Option Status :=
  ((r.byLabel? label).map Tree.status).filter
    (!·.isPausing)

/- Let every waiter look whether its wait is over. -/
def lookAgain
    (r : Rig) : Rig :=
  { r with waiting := r.waiting.map fun w =>
    { w with answer := w.answer <|> r.settled? w.label } }

/- The answer of a waiter, who leaves when there is one. -/
def join?
    (r : Rig)
    (task : String) : Option (Option Status) × Rig :=
  let r := r.lookAgain
  match r.waiting.get? task with
  | none => (none, r)
  | some ⟨_, none⟩ => (some none, r)
  | some ⟨_, some status⟩ =>
      (some (some status),
        { r with waiting := r.waiting.erase task })

/-
  Wait under a name until a node is not paused.  Who waited
  under the name before is forgotten.
-/
def wait?
    (r : Rig)
    (key task : String) :
    Option (Option Status × Rig) := do
  let label ← r.keys.get? key
  let (answer, r) := { r with
    waiting := r.waiting.insert task ⟨label, none⟩ }.join?
      task
  some (answer.join, r)

/- Begin to look at a node. -/
def subscribe?
    (r : Rig)
    (key task : String) : Option Rig := do
  let t ← r.find? key
  let seen := (t.self.label, t.self.changeCount)
  some { r with looking := r.looking.insert task seen }

/- Whether the status was set since the last look. -/
def look?
    (r : Rig)
    (task : String) : Option ((Bool × Status) × Rig) := do
  let (label, seen) ← r.looking.get? task
  let t ← r.byLabel? label
  let count := t.self.changeCount
  some ((count != seen, t.status), { r with
    looking := r.looking.insert task (label, count) })

end Rig

end Probes

end DeviceHub
