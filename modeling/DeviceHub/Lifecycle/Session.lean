import DeviceHub.Lifecycle.Address

/-
  A tree of components in use: calls of any of them, one
  after the other, each with hooks that act as they please.

  What has happened is kept for statements about it.  Hooks
  can be made to keep a journal of their runs, and the
  changes of a component are collected call by call, however
  short its own memory is.

  Key definitions include:
    * `HookRun`
    * `Hooks.journaled`
    * `LifecycleCall`
    * `Tree.run`
    * `Component.changesSince`
    * `Tree.changesAt`
    * `Attempt`
    * `Tried`
-/

namespace DeviceHub

variable {κ σ : Type}

------------------------------------------------------------
-- Journals
------------------------------------------------------------

/- One run of a hook: whose, at which turn, how it ended. -/
structure HookRun (κ : Type) where
  label : κ
  hook : Hook
  result : Except LifecycleError Unit

/- A run that has succeeded. -/
def HookRun.succeeded
    (r : HookRun κ) : Bool :=
  match r.result with
  | .ok _ => true
  | .error _ => false

/- The same hooks, which also keep a journal. -/
def Hooks.journaled
    (hooks : Hooks κ σ) : Hooks κ (σ × List (HookRun κ)) :=
  fun c hook s =>
    let r := hooks c hook s.1
    (r.1, (r.2, s.2 ++ [⟨c.label, hook, r.1⟩]))

------------------------------------------------------------
-- Sequences of Calls
------------------------------------------------------------

/- A call of the component at an address. -/
structure LifecycleCall (κ σ : Type) where
  address : Address
  action : LifecycleAction
  hooks : Hooks κ σ

namespace Tree

/- Make a call.  Where no component is, nothing happens. -/
def step
    (t : Tree κ)
    (s : σ)
    (call : LifecycleCall κ σ) : Tree κ × σ :=
  match t.callAt? call.hooks call.action call.address s with
  | some o => (o.tree, o.state)
  | none => (t, s)

/- Make calls one after the other. -/
def run
    (t : Tree κ)
    (s : σ) : List (LifecycleCall κ σ) → Tree κ × σ
  | [] => (t, s)
  | call :: rest =>
      let r := t.step s call
      r.1.run r.2 rest

end Tree

------------------------------------------------------------
-- Changes
------------------------------------------------------------

/-
  The changes of a component since it was as `before`, as
  far as it remembers them.
-/
def Component.changesSince
    (before c : Component κ) : List StatusChange :=
  newest (c.changeCount - before.changeCount) c.history

namespace Tree

/- What one call changed at an address. -/
def changesOf
    (p : Address)
    (t t' : Tree κ) : List StatusChange :=
  match t.component? p, t'.component? p with
  | some before, some c => before.changesSince c
  | _, _ => []

/- All changes at an address, collected call by call. -/
def changesAt
    (p : Address)
    (t : Tree κ)
    (s : σ) : List (LifecycleCall κ σ) → List StatusChange
  | [] => []
  | call :: rest =>
      let r := t.step s call
      changesOf p t r.1 ++ r.1.changesAt p r.2 rest

end Tree

------------------------------------------------------------
-- Attempts
------------------------------------------------------------

/-
  An attempt to start a tree: what the hooks do at that time,
  and which components are reset afterwards, in order.
-/
structure Attempt (κ σ : Type) where
  hooks : Hooks κ σ
  resets : List Address

namespace Attempt

/- How the start goes, with a journal of the hooks. -/
def outcome
    (a : Attempt κ σ)
    (t : Tree κ)
    (s : σ) : Tree.Outcome κ (σ × List (HookRun κ)) :=
  Tree.start a.hooks.journaled t (s, [])

/- The hooks that are run, and how they end. -/
def runs
    (a : Attempt κ σ)
    (t : Tree κ)
    (s : σ) : List (HookRun κ) :=
  (a.outcome t s).state.2

/- What is left after the start and some of the resets. -/
def after
    (a : Attempt κ σ)
    (t : Tree κ)
    (s : σ)
    (resets : List Address) : Tree κ × σ :=
  (a.outcome t s).tree.run (a.outcome t s).state.1
    (resets.map fun p => ⟨p, .reset, a.hooks⟩)

/- All components in error are reset, and no others. -/
def Thorough
    (a : Attempt κ σ)
    (t : Tree κ)
    (s : σ) : Prop :=
  ∀ p, p ∈ a.resets ↔
    (a.outcome t s).tree.status? p = some .error

end Attempt

/-
  What can have become of a tree after some attempts.  For
  each of them there is a list of the hooks that were run.
-/
inductive Tried
    (t : Tree κ)
    (s : σ) :
    List (List (HookRun κ)) → Tree κ → σ → Prop where
  | untried : Tried t s [] t s
  | again
      {rounds : List (List (HookRun κ))}
      {t' : Tree κ}
      {s' : σ}
      (hBefore : Tried t s rounds t' s')
      (a : Attempt κ σ)
      (hResets : a.Thorough t' s') :
      Tried t s (rounds ++ [a.runs t' s'])
        (a.after t' s' a.resets).1 (a.after t' s' a.resets).2

end DeviceHub
