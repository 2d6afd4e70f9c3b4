import DeviceHub.Lifecycle.Component

/-
  Trees of supervised components.

  A component's children start before it, in order, and stop
  after it, in reverse order.  What a component does at each
  turn is given by hooks, which may change a state that the
  whole system shares.

  Key definitions include:
    * `Tree`
    * `Hooks`
    * `Tree.start`
    * `Tree.pause`
    * `Tree.stop`
    * `Tree.reset`
    * `Tree.call`
    * `Tree.visit?`
    * `Tree.render`
-/

namespace DeviceHub

------------------------------------------------------------
-- Trees and Hooks
------------------------------------------------------------

/- A component with the components it owns. -/
inductive Tree (κ : Type) where
  | node
      (self : Component κ)
      (children : List (Tree κ))

/- The turns at which a component does something. -/
inductive Hook where
  | start
  | pause
  | resume
  | stop
  deriving DecidableEq, Inhabited, Repr

/- The name of a turn. -/
def Hook.name : Hook → String
  | start => "start"
  | pause => "pause"
  | resume => "resume"
  | stop => "stop"

/- What components do at each turn, and with what success. -/
abbrev Hooks (κ σ : Type) :=
  Component κ → Hook → σ → Except LifecycleError Unit × σ

namespace Tree

variable {κ σ : Type}

/- The component at the root. -/
def self : Tree κ → Component κ
  | node c _ => c

/- The trees of the root's children. -/
def children : Tree κ → List (Tree κ)
  | node _ ts => ts

/- Where the root stands. -/
def status
    (t : Tree κ) : Status :=
  t.self.status

/- A component without children. -/
def leaf
    (c : Component κ) : Tree κ :=
  node c []

/- Add a child after the others. -/
def addChild
    (t : Tree κ)
    (child : Tree κ) : Tree κ :=
  node t.self (t.children ++ [child])

------------------------------------------------------------
-- Outcomes
------------------------------------------------------------

/- The answer of a call, with what became of everything. -/
structure Outcome (κ σ : Type) where
  result : Except LifecycleError Status
  tree : Tree κ
  state : σ

/- What became of a list of children. -/
structure ChildrenOutcome (κ σ : Type) where
  failure : Option LifecycleError
  trees : List (Tree κ)
  state : σ

/- A call that changes nothing. -/
def rejected
    (t : Tree κ)
    (e : LifecycleError)
    (s : σ) : Outcome κ σ :=
  ⟨.error e, t, s⟩

/- A call that ends in the error status. -/
def failed
    (c : Component κ)
    (ts : List (Tree κ))
    (e : LifecycleError)
    (s : σ) : Outcome κ σ :=
  ⟨.error e, node (c.fail e.message) ts, s⟩

/- A call that ends in a new status. -/
def reached
    (c : Component κ)
    (ts : List (Tree κ))
    (status : Status)
    (reason : String)
    (s : σ) : Outcome κ σ :=
  ⟨.ok status, node (c.record status reason) ts, s⟩

/- Run a hook; its success decides the status. -/
def runHook
    (hooks : Hooks κ σ)
    (hook : Hook)
    (c : Component κ)
    (ts : List (Tree κ))
    (status : Status)
    (reason : String)
    (s : σ) : Outcome κ σ :=
  match hooks c hook s with
  | (.ok _, s) => reached c ts status reason s
  | (.error e, s) => failed c ts e s

/- The failure of a child as its parent reports it. -/
def childFailure
    (parent : String)
    (child : Tree κ)
    (e : LifecycleError) : LifecycleError :=
  .childFailed parent child.self.name e.message

------------------------------------------------------------
-- Starting
------------------------------------------------------------

mutual

/-
  Start a component after its children, or resume it alone
  if it is paused.
-/
def start
    (hooks : Hooks κ σ)
    (t : Tree κ)
    (s : σ) : Outcome κ σ :=
  match t with
  | node c ts =>
      let begun := c.record .starting "start requested"
      if c.status = .paused then
        runHook hooks .resume begun ts .started "resumed" s
      else if c.status = .stopped then
        let r := startAll hooks c.name c.policy ts s
        match r.failure with
        | some e => failed begun r.trees e r.state
        | none =>
            runHook hooks .start begun r.trees .started
              "started" r.state
      else
        rejected (node c ts) (c.rejection .start) s

/-
  Start the children that are not started yet.  The first
  failure is reported; whether the children after it are
  still started is a matter of policy.
-/
def startAll
    (hooks : Hooks κ σ)
    (parent : String)
    (policy : ChildPolicy)
    (ts : List (Tree κ))
    (s : σ) : ChildrenOutcome κ σ :=
  match ts with
  | [] => ⟨none, [], s⟩
  | t :: rest =>
      if t.status = .started then
        let r := startAll hooks parent policy rest s
        ⟨r.failure, t :: r.trees, r.state⟩
      else
        let o := start hooks t s
        match o.result with
        | .ok _ =>
            let r := startAll hooks parent policy rest o.state
            ⟨r.failure, o.tree :: r.trees, r.state⟩
        | .error e =>
            let failure := childFailure parent t e
            if policy = .failFast then
              ⟨some failure, o.tree :: rest, o.state⟩
            else
              let r :=
                startAll hooks parent policy rest o.state
              ⟨some failure, o.tree :: r.trees, r.state⟩

end

------------------------------------------------------------
-- Stopping
------------------------------------------------------------

mutual

/- Stop a component and then its children. -/
def stop
    (hooks : Hooks κ σ)
    (t : Tree κ)
    (s : σ) : Outcome κ σ :=
  match t with
  | node c ts =>
      if c.status.canStop then
        let begun := c.record .stopping "stop requested"
        let own := hooks begun .stop s
        let r := stopAll hooks c.name ts own.2
        match own.1, r.failure with
        | .error e, _ => failed begun r.trees e r.state
        | .ok _, some e => failed begun r.trees e r.state
        | .ok _, none =>
            reached begun r.trees .terminated "stopped"
              r.state
      else
        rejected (node c ts) (c.rejection .stop) s

/-
  Stop the children that run, the last one first.  All of
  them are stopped whatever fails, and the first failure is
  reported.
-/
def stopAll
    (hooks : Hooks κ σ)
    (parent : String)
    (ts : List (Tree κ))
    (s : σ) : ChildrenOutcome κ σ :=
  match ts with
  | [] => ⟨none, [], s⟩
  | t :: rest =>
      let r := stopAll hooks parent rest s
      if t.status.canStop then
        let o := stop hooks t r.state
        match o.result with
        | .ok _ => ⟨r.failure, o.tree :: r.trees, o.state⟩
        | .error e =>
            ⟨r.failure.or (some (childFailure parent t e)),
              o.tree :: r.trees, o.state⟩
      else
        ⟨r.failure, t :: r.trees, r.state⟩

end

------------------------------------------------------------
-- Pausing and Resetting
------------------------------------------------------------

/-
  Pause a component.  One that cannot pause stays as it is,
  unless it is in the error status.
-/
def pause
    (hooks : Hooks κ σ)
    (t : Tree κ)
    (s : σ) : Outcome κ σ :=
  match t with
  | node c ts =>
      if c.status = .error then
        rejected (node c ts) (.inErrorState c.name) s
      else if !c.canPause then
        ⟨.ok c.status, node c ts, s⟩
      else if c.status = .started then
        let begun := c.record .pausing "pause requested"
        runHook hooks .pause begun ts .paused "paused" s
      else
        rejected (node c ts) (c.rejection .pause) s

/- Take a component out of the error status. -/
def reset
    (t : Tree κ)
    (s : σ) : Outcome κ σ :=
  match t with
  | node c ts =>
      if c.status = .error then
        ⟨.ok .stopped, node c.clear ts, s⟩
      else
        rejected (node c ts)
          (.invalidTransition c.name c.status .reset) s

/- Ask a component to do something. -/
def call
    (hooks : Hooks κ σ)
    (action : LifecycleAction)
    (t : Tree κ)
    (s : σ) : Outcome κ σ :=
  match action with
  | .start => start hooks t s
  | .pause => pause hooks t s
  | .stop => stop hooks t s
  | .reset => reset t s

------------------------------------------------------------
-- Parts of a Tree
------------------------------------------------------------

mutual

/-
  Replace the first component that passes a test, parents
  before children, and report on it.
-/
def visit?
    {α : Type}
    (test : Component κ → Bool)
    (f : Tree κ → α × Tree κ)
    (t : Tree κ) : Option (α × Tree κ) :=
  match t with
  | node c ts =>
      if test c then
        some (f (node c ts))
      else
        (visitFirst? test f ts).map fun r =>
          (r.1, node c r.2)

/- The same for the first of several trees. -/
def visitFirst?
    {α : Type}
    (test : Component κ → Bool)
    (f : Tree κ → α × Tree κ)
    (ts : List (Tree κ)) : Option (α × List (Tree κ)) :=
  match ts with
  | [] => none
  | t :: rest =>
      match visit? test f t with
      | some (a, t) => some (a, t :: rest)
      | none =>
          (visitFirst? test f rest).map fun r =>
            (r.1, t :: r.2)

end

mutual

/- All parts of a tree, parents before children. -/
def parts
    (t : Tree κ) : List (Tree κ) :=
  match t with
  | node c ts => node c ts :: partsOfAll ts

/- All parts of several trees. -/
def partsOfAll
    (ts : List (Tree κ)) : List (Tree κ) :=
  match ts with
  | [] => []
  | t :: rest => parts t ++ partsOfAll rest

end

/- The names of the components of a kind. -/
def namesOfKind
    (t : Tree κ)
    (kind : ComponentKind) : List String :=
  (t.parts.filter (·.self.kind = kind)).map (·.self.name)

mutual

/- A line for every component, children indented. -/
def renderAt
    (depth : Nat)
    (t : Tree κ) : String :=
  match t with
  | node c ts => c.line depth ++ renderAll (depth + 1) ts

/- The lines of several trees. -/
def renderAll
    (depth : Nat)
    (ts : List (Tree κ)) : String :=
  match ts with
  | [] => ""
  | t :: rest => renderAt depth t ++ renderAll depth rest

end

/- A line for every component. -/
def render
    (t : Tree κ) : String :=
  t.renderAt 0

/- What there is to know of the component at the root. -/
def summary
    (t : Tree κ) : Json :=
  let c := t.self
  .record
    [("name", .text c.name), ("type", .text c.kind.name),
      ("status", c.status.toJson),
      ("started", .bool (c.status = .started)),
      ("lastError", .text? c.lastError),
      ("policy", c.policy.toJson),
      ("children", .nat t.children.length),
      ("canPause", .bool c.canPause)]

end Tree

end DeviceHub
