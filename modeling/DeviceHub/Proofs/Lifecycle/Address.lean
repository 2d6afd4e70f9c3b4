import DeviceHub.Lifecycle.Address
import Mathlib.Data.List.Nodup

/-
  Addresses in trees of components.

  What is put in the place of a part is found below its
  address, and all other components stay as they were.  A
  tour meets every component exactly once.

  Key definitions include:
    * `Tree.Visited`
    * `Tree.Each`

  Main statements:
    * `Tree.induct`
    * `Tree.component?_replace_of_outside`
    * `Tree.mem_parts_iff`
    * `Tree.mem_tour_iff`
    * `Tree.exists_callAt?_of_visit?`
    * `Tree.Each.replace`
-/

namespace DeviceHub

namespace Tree

variable {κ : Type}

------------------------------------------------------------
-- Induction
------------------------------------------------------------

/- A tree has a property if its children hand it on. -/
@[elab_as_elim, induction_eliminator]
theorem induct
    {P : Tree κ → Prop}
    (node : ∀ c ts, (∀ t ∈ ts, P t) → P (.node c ts))
    (t : Tree κ) : P t := by
  refine @Tree.rec κ P (fun ts => ∀ t ∈ ts, P t) node ?_ ?_ t
  · intro t hMem
    cases hMem
  · intro t rest hHead hRest u hMem
    rcases List.mem_cons.1 hMem with rfl | hLater
    · exact hHead
    · exact hRest u hLater

------------------------------------------------------------
-- Looking
------------------------------------------------------------

theorem part?_cons
    (c : Component κ)
    (ts : List (Tree κ))
    (i : Nat)
    (p : Address) :
    (node c ts).part? (i :: p) = ts[i]?.bind (·.part? p) :=
  rfl

/- To go down two ways is to go down the one, then the other. -/
theorem part?_append
    (t : Tree κ)
    (p q : Address) :
    t.part? (p ++ q) = (t.part? p).bind (·.part? q) := by
  induction p generalizing t with
  | nil => rfl
  | cons i p ih =>
      cases t with
      | node c ts =>
          rw [List.cons_append, part?_cons, part?_cons]
          cases ts[i]? with
          | none => rfl
          | some u => exact ih u

@[simp]
theorem component?_nil
    (c : Component κ)
    (ts : List (Tree κ)) :
    (node c ts).component? [] = some c :=
  rfl

theorem component?_cons
    (c : Component κ)
    (ts : List (Tree κ))
    (i : Nat)
    (p : Address) :
    (node c ts).component? (i :: p) =
      ts[i]?.bind (·.component? p) := by
  unfold component?
  rw [part?_cons]
  cases ts[i]? with
  | none => rfl
  | some u => rfl

theorem component?_cons_eq_some_iff
    {c d : Component κ}
    {ts : List (Tree κ)}
    {i : Nat}
    {p : Address} :
    (node c ts).component? (i :: p) = some d ↔
      ∃ u, ts[i]? = some u ∧ u.component? p = some d := by
  rw [component?_cons]
  exact Option.bind_eq_some_iff

/- Below an address are the components of the part there. -/
theorem component?_append
    {t u : Tree κ}
    {p : Address}
    (hPart : t.part? p = some u)
    (q : Address) :
    t.component? (p ++ q) = u.component? q := by
  unfold component?
  rw [part?_append, hPart]
  rfl

theorem status?_eq
    (t : Tree κ)
    (p : Address) :
    t.status? p = (t.component? p).map (·.status) := by
  unfold status? component?
  cases t.part? p with
  | none => rfl
  | some u => rfl

theorem status?_eq_some_iff
    {t : Tree κ}
    {p : Address}
    {status : Status} :
    t.status? p = some status ↔
      ∃ c, t.component? p = some c ∧ c.status = status := by
  rw [status?_eq]
  exact Option.map_eq_some_iff

theorem status?_cons
    (c : Component κ)
    (ts : List (Tree κ))
    (i : Nat)
    (p : Address) :
    (node c ts).status? (i :: p) =
      ts[i]?.bind (·.status? p) := by
  unfold status?
  rw [part?_cons]
  cases ts[i]? with
  | none => rfl
  | some u => rfl

------------------------------------------------------------
-- Replacing
------------------------------------------------------------

/- What is put in the place of a part is found there. -/
theorem part?_replace
    {t v : Tree κ}
    {p : Address}
    (hPart : t.part? p = some v)
    (u : Tree κ) :
    (t.replace u p).part? p = some u := by
  induction p generalizing t with
  | nil => rfl
  | cons i p ih =>
      cases t with
      | node c ts =>
          rw [part?_cons] at hPart
          rcases Option.bind_eq_some_iff.1 hPart with
            ⟨w, hChild, hBelow⟩
          have hReplaced :
              (ts.modify i fun x => x.replace u p)[i]? =
                some (w.replace u p) := by
            simp [hChild]
          unfold replace
          rw [part?_cons]
          exact Option.bind_eq_some_iff.2
            ⟨_, hReplaced, ih hBelow⟩

/- To put a part in its own place changes nothing. -/
theorem replace_self
    {t u : Tree κ}
    {p : Address}
    (hPart : t.part? p = some u) :
    t.replace u p = t := by
  induction p generalizing t with
  | nil => exact (Option.some.inj hPart).symm
  | cons i p ih =>
      cases t with
      | node c ts =>
          rw [part?_cons] at hPart
          rcases Option.bind_eq_some_iff.1 hPart with
            ⟨v, hChild, hBelow⟩
          unfold replace
          refine congrArg (node c) (List.ext_getElem? ?_)
          intro j
          by_cases hSame : i = j
          · subst hSame
            simp only [children, List.getElem?_modify_eq,
              hChild]
            exact congrArg some (ih hBelow)
          · rw [List.getElem?_modify_ne (h := hSame)]
            rfl

/- What does not stand below an address is not replaced. -/
theorem component?_replace_of_outside
    (t u : Tree κ)
    {p q : Address}
    (hOutside : ¬ p <+: q) :
    (t.replace u p).component? q = t.component? q := by
  induction p generalizing t q with
  | nil => exact absurd List.nil_prefix hOutside
  | cons i p ih =>
      cases t with
      | node c ts =>
          cases q with
          | nil => rfl
          | cons j q =>
              unfold replace
              simp only [component?_cons, children, self]
              by_cases hSame : i = j
              · subst hSame
                have hBelow : ¬ p <+: q := by
                  intro hPrefix
                  exact hOutside
                    (List.cons_prefix_cons.2 ⟨rfl, hPrefix⟩)
                rw [List.getElem?_modify_eq]
                cases ts[i]? with
                | none => rfl
                | some v => exact ih v hBelow
              · rw [List.getElem?_modify_ne (h := hSame)]

/- If the children of a part stay, so does all but its root. -/
theorem component?_replace_node_of_ne
    {t : Tree κ}
    {d : Component κ}
    {us : List (Tree κ)}
    {p q : Address}
    (hPart : t.part? p = some (node d us))
    (c : Component κ)
    (hOther : q ≠ p) :
    (t.replace (node c us) p).component? q =
      t.component? q := by
  by_cases hPrefix : p <+: q
  · rcases hPrefix with ⟨r, rfl⟩
    rw [component?_append (part?_replace hPart _),
      component?_append hPart]
    cases r with
    | nil => exact absurd (List.append_nil p) hOther
    | cons i r => rw [component?_cons, component?_cons]
  · exact component?_replace_of_outside t _ hPrefix

/- A call at an address is a call of the part there. -/
theorem callAt?_eq_some
    {σ : Type}
    {t u : Tree κ}
    {p : Address}
    (hPart : t.part? p = some u)
    (hooks : Hooks κ σ)
    (action : LifecycleAction)
    (s : σ) :
    t.callAt? hooks action p s =
      some ⟨(u.call hooks action s).result,
        t.replace (u.call hooks action s).tree p,
        (u.call hooks action s).state⟩ := by
  unfold callAt?
  rw [hPart]
  rfl

------------------------------------------------------------
-- Parts and Tours
------------------------------------------------------------

theorem mem_partsOfAll_iff
    {u : Tree κ}
    {ts : List (Tree κ)} :
    u ∈ partsOfAll ts ↔ ∃ t ∈ ts, u ∈ t.parts := by
  induction ts with
  | nil => simp [partsOfAll]
  | cons t rest ih => simp [partsOfAll, ih]

theorem partsOfAll_append
    (ts us : List (Tree κ)) :
    partsOfAll (ts ++ us) =
      partsOfAll ts ++ partsOfAll us := by
  induction ts with
  | nil => rfl
  | cons t rest ih => simp [partsOfAll, ih]

/- A tree without children is its only part. -/
theorem partsOfAll_of_leaves
    {ts : List (Tree κ)}
    (hLeaves : ∀ t ∈ ts, t.children = []) :
    partsOfAll ts = ts := by
  induction ts with
  | nil => rfl
  | cons t rest ih =>
      cases t with
      | node c us =>
          have hNone : us = [] := hLeaves _ (.head _)
          subst hNone
          unfold partsOfAll
          rw [ih fun t ht => hLeaves t (.tail _ ht)]
          rfl

/- The parts of a tree are what its addresses lead to. -/
theorem mem_parts_iff
    {t u : Tree κ} :
    u ∈ t.parts ↔ ∃ p, t.part? p = some u := by
  induction t with
  | node c ts ih =>
      unfold parts
      rw [List.mem_cons, mem_partsOfAll_iff]
      constructor
      · rintro (rfl | ⟨t, hChild, hBelow⟩)
        · exact ⟨[], rfl⟩
        · rcases (ih t hChild).1 hBelow with ⟨p, hPart⟩
          rcases List.mem_iff_getElem?.1 hChild with ⟨i, hi⟩
          refine ⟨i :: p, ?_⟩
          rw [part?_cons, hi]
          exact hPart
      · rintro ⟨p, hPart⟩
        cases p with
        | nil => exact .inl (Option.some.inj hPart).symm
        | cons i p =>
            rw [part?_cons] at hPart
            rcases Option.bind_eq_some_iff.1 hPart with
              ⟨t, hi, hBelow⟩
            have hChild := List.mem_of_getElem? hi
            exact .inr ⟨t, hChild, (ih t hChild).2 ⟨p, hBelow⟩⟩

theorem mem_tourAll_iff
    {first : Nat}
    {ts : List (Tree κ)}
    {x : Address × Component κ} :
    x ∈ tourAll first ts ↔
      ∃ i p t, x.1 = (first + i) :: p ∧ ts[i]? = some t ∧
        (p, x.2) ∈ t.tour := by
  induction ts generalizing first with
  | nil => simp [tourAll]
  | cons t rest ih =>
      unfold tourAll
      rw [List.mem_append, List.mem_map, ih]
      constructor
      · rintro (⟨y, hy, rfl⟩ | ⟨i, p, u, hx, hi, hu⟩)
        · exact ⟨0, y.1, t, rfl, rfl, hy⟩
        · refine ⟨i + 1, p, u, ?_, hi, hu⟩
          rw [hx, Nat.add_assoc, Nat.add_comm 1 i]
      · rintro ⟨i, p, u, hx, hi, hu⟩
        cases i with
        | zero =>
            cases hi
            exact .inl ⟨(p, x.2), hu, Prod.ext hx.symm rfl⟩
        | succ i =>
            refine .inr ⟨i, p, u, ?_, hi, hu⟩
            rw [hx, Nat.add_assoc, Nat.add_comm 1 i]

/- A tour meets the components of a tree at their places. -/
theorem mem_tour_iff
    {t : Tree κ}
    {p : Address}
    {c : Component κ} :
    (p, c) ∈ t.tour ↔ t.component? p = some c := by
  induction t generalizing p with
  | node d ts ih =>
      unfold tour
      rw [List.mem_append, mem_tourAll_iff,
        List.mem_singleton]
      cases p with
      | nil => simp [eq_comm]
      | cons i p =>
          rw [component?_cons_eq_some_iff]
          constructor
          · rintro (⟨j, q, t, hAddress, hj, hMem⟩ | hRoot)
            · rw [Nat.zero_add, List.cons.injEq] at hAddress
              rcases hAddress with ⟨rfl, rfl⟩
              have hChild := List.mem_of_getElem? hj
              exact ⟨t, hj, (ih t hChild).1 hMem⟩
            · cases hRoot
          · rintro ⟨t, hi, hBelow⟩
            have hChild := List.mem_of_getElem? hi
            exact .inl ⟨i, p, t, by rw [Nat.zero_add], hi,
              (ih t hChild).2 hBelow⟩

theorem nodup_tourAll
    {ts : List (Tree κ)}
    (hEach : ∀ t ∈ ts, (t.tour.map (·.1)).Nodup)
    (first : Nat) :
    ((tourAll first ts).map (·.1)).Nodup := by
  induction ts generalizing first with
  | nil => exact List.nodup_nil
  | cons t rest ih =>
      unfold tourAll
      rw [List.map_append, List.nodup_append']
      refine ⟨?_, ih (fun u hu => hEach u (.tail _ hu)) _, ?_⟩
      · rw [List.map_map]
        have hHead := (hEach t (.head _)).map
          (List.cons_injective (a := first))
        rwa [List.map_map] at hHead
      · intro p hHead hRest
        simp only [List.mem_map] at hHead hRest
        rcases hHead with ⟨_, ⟨y, -, rfl⟩, rfl⟩
        rcases hRest with ⟨x, hx, hSame⟩
        rcases mem_tourAll_iff.1 hx with ⟨i, p, u, hp, -, -⟩
        rw [hSame, List.cons.injEq] at hp
        omega

/- A tour comes to every place once. -/
theorem nodup_tour
    (t : Tree κ) :
    (t.tour.map (·.1)).Nodup := by
  induction t with
  | node c ts ih =>
      unfold tour
      rw [List.map_append, List.nodup_append']
      refine ⟨nodup_tourAll ih 0, by simp, ?_⟩
      intro p hBelow hRoot
      rcases List.mem_map.1 hBelow with ⟨x, hx, rfl⟩
      rcases mem_tourAll_iff.1 hx with ⟨i, p, u, hp, -, -⟩
      simp [hp] at hRoot

------------------------------------------------------------
-- Visits
------------------------------------------------------------

section Visits

variable {α : Type}
variable {test : Component κ → Bool} {f : Tree κ → α × Tree κ}

/- One part of a tree that passes a test has been visited. -/
def Visited
    (test : Component κ → Bool)
    (f : Tree κ → α × Tree κ)
    (t : Tree κ)
    (a : α)
    (t' : Tree κ) : Prop :=
  ∃ p u v, t.part? p = some u ∧ test u.self = true ∧
    f u = (a, v) ∧ t' = t.replace v p

/- A visit to a child is one to its parent's tree. -/
theorem Visited.node
    {t t' : Tree κ}
    {a : α}
    (hVisited : Visited test f t a t')
    {ts : List (Tree κ)}
    {i : Nat}
    (hChild : ts[i]? = some t)
    (c : Component κ) :
    Visited test f (.node c ts) a (.node c (ts.set i t')) := by
  rcases hVisited with ⟨p, u, v, hPart, hTest, hVisit, rfl⟩
  refine ⟨i :: p, u, v, ?_, hTest, hVisit, ?_⟩
  · rw [part?_cons, hChild]
    exact hPart
  · have hReplace : (Tree.node c ts).replace v (i :: p) =
        Tree.node c (ts.modify i fun w => w.replace v p) :=
      rfl
    rw [hReplace, List.modify_eq_set_getElem?, hChild]
    rfl

theorem exists_visited_of_visitFirst?
    {ts : List (Tree κ)}
    (hEach : ∀ t ∈ ts, ∀ a t',
      visit? test f t = some (a, t') → Visited test f t a t')
    {a : α}
    {ts' : List (Tree κ)}
    (hVisit : visitFirst? test f ts = some (a, ts')) :
    ∃ i t t', ts[i]? = some t ∧ Visited test f t a t' ∧
      ts' = ts.set i t' := by
  induction ts generalizing ts' with
  | nil =>
      unfold visitFirst? at hVisit
      cases hVisit
  | cons t rest ih =>
      unfold visitFirst? at hVisit
      cases hHead : visit? test f t with
      | some r =>
          rw [hHead] at hVisit
          cases hVisit
          exact ⟨0, t, _, rfl, hEach t (.head _) _ _ hHead,
            rfl⟩
      | none =>
          rw [hHead] at hVisit
          rcases Option.map_eq_some_iff.1 hVisit with
            ⟨⟨b, us⟩, hRest, hSame⟩
          cases hSame
          rcases ih (fun u hu => hEach u (.tail _ hu)) hRest
            with ⟨i, u, u', hu, hVisited, rfl⟩
          exact ⟨i + 1, u, u', hu, hVisited, rfl⟩

/- A visit replaces the part at some address. -/
theorem visited_of_visit?
    {t t' : Tree κ}
    {a : α}
    (hVisit : visit? test f t = some (a, t')) :
    Visited test f t a t' := by
  induction t generalizing a t' with
  | node c ts ih =>
      unfold visit? at hVisit
      by_cases hTest : test c = true
      · rw [if_pos hTest, Option.some.injEq] at hVisit
        exact ⟨[], node c ts, t', rfl, hTest, hVisit, rfl⟩
      · rw [if_neg hTest] at hVisit
        rcases Option.map_eq_some_iff.1 hVisit with
          ⟨⟨b, us⟩, hBelow, hSame⟩
        cases hSame
        rcases exists_visited_of_visitFirst?
            (fun t ht a t' h => ih t ht h) hBelow with
          ⟨i, u, u', hu, hVisited, rfl⟩
        exact hVisited.node hu c

/- To visit a component with a call is to call it there. -/
theorem exists_callAt?_of_visit?
    {σ : Type}
    {t t' : Tree κ}
    {hooks : Hooks κ σ}
    {action : LifecycleAction}
    {s s' : σ}
    {result : Except LifecycleError Status}
    (hVisit :
      visit? test
        (fun u =>
          let o := u.call hooks action s
          ((o.result, o.state), o.tree)) t =
        some ((result, s'), t')) :
    ∃ p c, t.component? p = some c ∧ test c = true ∧
      t.callAt? hooks action p s = some ⟨result, t', s'⟩ := by
  rcases visited_of_visit? hVisit with
    ⟨p, u, v, hPart, hTest, hCall, rfl⟩
  refine ⟨p, u.self, ?_, hTest, ?_⟩
  · unfold component?
    rw [hPart]
    rfl
  · rw [callAt?_eq_some hPart]
    cases hCall
    rfl

end Visits

------------------------------------------------------------
-- Trees Compared Place by Place
------------------------------------------------------------

/-
  Two trees have the same places, and what stands at each is
  related.
-/
def Each
    (R : Component κ → Component κ → Prop)
    (t t' : Tree κ) : Prop :=
  ∀ p, Option.Rel R (t.component? p) (t'.component? p)

variable {R : Component κ → Component κ → Prop}

theorem Each.refl
    (hRefl : ∀ c, R c c)
    (t : Tree κ) :
    Each R t t := by
  intro p
  cases t.component? p with
  | none => exact .none
  | some c => exact .some (hRefl c)

theorem Each.exists_after
    {t t' : Tree κ}
    (hEach : Each R t t')
    {p : Address}
    {c : Component κ}
    (hBefore : t.component? p = some c) :
    ∃ c', t'.component? p = some c' ∧ R c c' := by
  have hHere := hEach p
  rw [hBefore] at hHere
  cases hAfter : t'.component? p with
  | none =>
      rw [hAfter] at hHere
      cases hHere
  | some c' =>
      rw [hAfter] at hHere
      cases hHere with
      | some hRelated => exact ⟨c', rfl, hRelated⟩

theorem Each.exists_before
    {t t' : Tree κ}
    (hEach : Each R t t')
    {p : Address}
    {c' : Component κ}
    (hAfter : t'.component? p = some c') :
    ∃ c, t.component? p = some c ∧ R c c' := by
  have hHere := hEach p
  rw [hAfter] at hHere
  cases hBefore : t.component? p with
  | none =>
      rw [hBefore] at hHere
      cases hHere
  | some c =>
      rw [hBefore] at hHere
      cases hHere with
      | some hRelated => exact ⟨c, rfl, hRelated⟩

theorem Each.eq_none_iff
    {t t' : Tree κ}
    (hEach : Each R t t')
    (p : Address) :
    t'.component? p = none ↔ t.component? p = none := by
  have hHere := hEach p
  generalize t.component? p = x at hHere ⊢
  generalize t'.component? p = y at hHere ⊢
  cases hHere with
  | none => exact Iff.rfl
  | some => exact iff_of_false nofun nofun

/- Trees are compared at their roots and child by child. -/
theorem Each.node
    {c c' : Component κ}
    {ts ts' : List (Tree κ)}
    (hSelf : R c c')
    (hChildren : List.Forall₂ (Each R) ts ts') :
    Each R (.node c ts) (.node c' ts') := by
  intro p
  cases p with
  | nil => exact .some hSelf
  | cons i p =>
      rw [component?_cons, component?_cons]
      induction hChildren generalizing i with
      | nil => exact .none
      | cons hHead hRest ih =>
          cases i with
          | zero => exact hHead p
          | succ i => exact ih i

/- So their roots are related. -/
theorem Each.root
    {t t' : Tree κ}
    (hEach : Each R t t') :
    R t.self t'.self := by
  have hHere := hEach []
  cases hHere with
  | some hSelf => exact hSelf

/- So are their children, one by one. -/
theorem Each.children
    {c c' : Component κ}
    {ts ts' : List (Tree κ)}
    (hEach : Each R (.node c ts) (.node c' ts')) :
    List.Forall₂ (Each R) ts ts' := by
  have hPlaces : ∀ (i : Nat) (p : Address),
      Option.Rel R (ts[i]?.bind (·.component? p))
        (ts'[i]?.bind (·.component? p)) := by
    intro i p
    have hHere := hEach (i :: p)
    rw [component?_cons, component?_cons] at hHere
    exact hHere
  clear hEach
  induction ts generalizing ts' with
  | nil =>
      cases ts' with
      | nil => exact .nil
      | cons u us =>
          have hFirst := hPlaces 0 []
          cases hFirst
  | cons t ts ih =>
      cases ts' with
      | nil =>
          have hFirst := hPlaces 0 []
          cases hFirst
      | cons u us =>
          exact .cons (fun p => hPlaces 0 p)
            (ih fun i p => hPlaces (i + 1) p)

/- Only what is put in the place of a part need be compared. -/
theorem Each.replace
    (hRefl : ∀ c, R c c)
    {t u v : Tree κ}
    {p : Address}
    (hPart : t.part? p = some u)
    (hEach : Each R u v) :
    Each R t (t.replace v p) := by
  intro q
  by_cases hPrefix : p <+: q
  · rcases hPrefix with ⟨r, rfl⟩
    rw [component?_append hPart,
      component?_append (part?_replace hPart v)]
    exact hEach r
  · rw [component?_replace_of_outside t v hPrefix]
    exact Each.refl hRefl t q

end Tree

end DeviceHub
