import DeviceHub.Delivery.Router
import DeviceHub.Proofs.Dict

/-
  Routers whose rules of choice have been checked.

  The check and the choice look at the same rules in two
  ways.  What passes the check names only destinations that
  are there, so no choice can fail for want of one.

  Key definitions include:
    * `Router.target?`
    * `Router.HasOnly`
    * `Router.Checked`

  Main statements:
    * `Router.check_ok_iff`
    * `Router.Checked.route_of_some`
    * `Router.route_of_only`
    * `Router.route_of_none`
-/

namespace DeviceHub

namespace Router

variable {r : Router}

/- The id that the rules of choice name for a specification. -/
def target?
    (r : Router)
    (specificationToken : String) : Option String :=
  (r.mappings.get? specificationToken).or
    r.defaultDestination

/- There are no mappings, and a single destination. -/
def HasOnly
    (r : Router)
    (id : String) : Prop :=
  r.mappings.keys = [] ∧ r.destinations.keys = [id]

/- The rules of choice name destinations that are there. -/
structure Checked
    (r : Router) : Prop where
  any : r.destinations.keys ≠ []
  mapped : ∀ token id, r.mappings.get? token = some id →
    r.destinations.contains id = true
  default : ∀ id, r.defaultDestination = some id →
    r.destinations.contains id = true

theorem danglingMapping?_eq_none_iff :
    r.danglingMapping? = none ↔
      ∀ token id, r.mappings.get? token = some id →
        r.destinations.contains id = true := by
  unfold danglingMapping?
  rw [List.find?_eq_none]
  constructor
  · intro hAll token id hMapped
    simpa using hAll _ (Dict.mem_entries_iff.2 hMapped)
  · intro hAll m hMem
    simp [hAll m.1 m.2 (Dict.mem_entries_iff.1 hMem)]

/- This is what is checked. -/
theorem check_ok_iff :
    r.check = .ok () ↔ r.Checked := by
  have hCheck : r.check = .ok () ↔
      r.configurationError? = none := by
    unfold check
    split <;> simp_all
  rw [hCheck]
  unfold configurationError?
  constructor
  · intro hNone
    split at hNone
    · cases hNone
    · rename_i hAny
      split at hNone
      · cases hNone
      · rename_i hMapped
        refine ⟨by simpa using hAny,
          danglingMapping?_eq_none_iff.1 hMapped, ?_⟩
        intro id hDefault
        simpa [hDefault] using hNone
  · intro hChecked
    have hMapped :=
      danglingMapping?_eq_none_iff.2 hChecked.mapped
    rw [if_neg (by simpa using hChecked.any), hMapped]
    cases hDefault : r.defaultDestination with
    | none => rfl
    | some id => simp [hChecked.default id hDefault]

namespace Checked

variable {device : Device}
variable {id : String}

/- What is named is there. -/
theorem contains_target
    (hChecked : r.Checked)
    {token : String}
    (hTarget : r.target? token = some id) :
    r.destinations.contains id = true := by
  unfold target? at hTarget
  cases hMapped : r.mappings.get? token with
  | none =>
      rw [hMapped, Option.none_or] at hTarget
      exact hChecked.default id hTarget
  | some id' =>
      rw [hMapped, Option.some_or] at hTarget
      cases hTarget
      exact hChecked.mapped token id hMapped

/- A device goes where the rules say. -/
theorem route_of_some
    (hChecked : r.Checked)
    (hTarget : r.target? device.specificationToken =
      some id) :
    ∃ place, r.destinations.get? id = some place ∧
      r.route device = .ok (id, place) := by
  have hThere := hChecked.contains_target hTarget
  rcases Option.isSome_iff_exists.1 hThere with
    ⟨place, hPlace⟩
  refine ⟨place, hPlace, ?_⟩
  unfold target? at hTarget
  simp [route, choose?, hTarget, hPlace]

end Checked

/- Where the rules say nothing, a single destination does. -/
theorem route_of_only
    {device : Device}
    {id : String}
    {place : Nat}
    (hTarget : r.target? device.specificationToken = none)
    (hOnly : r.HasOnly id)
    (hPlace : r.destinations.get? id = some place) :
    r.route device = .ok (id, place) := by
  unfold target? at hTarget
  simp [route, choose?, hTarget, hOnly.1, hOnly.2, hPlace]

/- A route leads to where a destination is. -/
theorem place_of_route
    {device : Device}
    {id : String}
    {place : Nat}
    (hRoute : r.route device = .ok (id, place)) :
    r.destinations.get? id = some place := by
  unfold route at hRoute
  split at hRoute
  · cases hRoute
  · split at hRoute
    · cases hRoute
    · rename_i hPlace
      cases hRoute
      exact hPlace

/- Otherwise there is no route. -/
theorem route_of_none
    {device : Device}
    (hTarget : r.target? device.specificationToken = none)
    (hMany : ∀ id, ¬ r.HasOnly id) :
    r.route device =
      .error (.noRoute device.specificationToken) := by
  have hChoice : r.choose? device.specificationToken =
      none := by
    unfold target? at hTarget
    unfold choose?
    rw [hTarget]
    dsimp only
    split
    · rename_i only hMappings hOnly
      exact absurd ⟨hMappings, hOnly⟩ (hMany only)
    · rfl
  unfold route
  rw [hChoice]

end Router

end DeviceHub
