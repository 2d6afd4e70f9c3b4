import DeviceHub.Proofs.Hub.Wiring

/-
  Routers from their first mapping on.

  The rules of a router are what the moves made them last.
  One that has been started was checked, and stays so until
  its rules change, so that every device has the destination
  that the moves choose for it.

  Key definitions include:
    * `DeliveryMove.lastMapped?`, `DeliveryMove.lastDefault?`
    * `DeliveryMove.chosen?`
    * `DeliverySession.RouterStarted`

  Main statements:
    * `DeliverySession.rules_run`
    * `DeliverySession.RouterStarted.checked`
    * `DeliverySession.started_router_routes`
-/

------------------------------------------------------------
-- Moves and Rules
------------------------------------------------------------

namespace DeviceHub

namespace DeliveryMove

/- The id that a move maps a specification to. -/
def maps?
    (specificationToken : String) :
    DeliveryMove → Option String
  | map token id =>
      if specificationToken = token then some id else none
  | _ => none

/- The id that a move makes the default. -/
def fallsBack? : DeliveryMove → Option String
  | fallBack id => some id
  | _ => none

/- Whether a move changes the rules or the destinations. -/
def isConfiguring : DeliveryMove → Bool
  | map .. => true
  | fallBack _ => true
  | register .. => true
  | _ => false

/- The destination that is mapped last to a specification. -/
def lastMapped?
    (moves : List DeliveryMove)
    (specificationToken : String) : Option String :=
  moves.reverse.findSome? (·.maps? specificationToken)

/- The default that is given last. -/
def lastDefault?
    (moves : List DeliveryMove) : Option String :=
  moves.reverse.findSome? (·.fallsBack?)

/- The last of several moves counts first. -/
theorem lastMapped?_concat
    (before : List DeliveryMove)
    (m : DeliveryMove)
    (token : String) :
    lastMapped? (before ++ [m]) token =
      (m.maps? token).or (lastMapped? before token) := by
  unfold lastMapped?
  rw [List.reverse_concat, List.findSome?_cons]
  cases m.maps? token <;> rfl

theorem lastDefault?_concat
    (before : List DeliveryMove)
    (m : DeliveryMove) :
    lastDefault? (before ++ [m]) =
      m.fallsBack?.or (lastDefault? before) := by
  unfold lastDefault?
  rw [List.reverse_concat, List.findSome?_cons]
  cases m.fallsBack? <;> rfl

end DeliveryMove

namespace DeliverySession

section Rules

variable {s : DeliverySession}

/- The rules of choice after a move. -/
theorem rules_step
    (s : DeliverySession)
    (m : DeliveryMove)
    (token : String) :
    (s.step m).2.hub.equipment.router.mappings.get? token =
        (m.maps? token).or
          (s.hub.equipment.router.mappings.get? token) ∧
      (s.step m).2.hub.equipment.router.defaultDestination =
        m.fallsBack?.or
          s.hub.equipment.router.defaultDestination := by
  have hSame : ∀ {h' : Hub},
      h'.equipment.router = s.hub.equipment.router →
      h'.equipment.router.mappings.get? token =
          s.hub.equipment.router.mappings.get? token ∧
        h'.equipment.router.defaultDestination =
          s.hub.equipment.router.defaultDestination := by
    intro h' hRouter
    rw [hRouter]
    exact ⟨rfl, rfl⟩
  cases m with
  | map token' id =>
      refine ⟨?_, rfl⟩
      simp only [step, setHub, Hub.mapRouter, Hub.equip,
        Dict.get?_insert, DeliveryMove.maps?]
      split <;> rfl
  | fallBack id => exact ⟨rfl, rfl⟩
  | register id encoding templates mode =>
      simp only [step, register]
      split
      · exact hSame rfl
      · rename_i h hOk
        rcases register_cases hOk with ⟨-, rfl⟩
        exact ⟨rfl, rfl⟩
  | control part action =>
      simp only [step, control]
      split
      · exact hSame rfl
      · rename_i result h hControl
        rcases Hub.controlled_of_control hControl with
          ⟨i, p, t, u, hControlled⟩
        exact hSame hControlled.sameFixtures.router
  | store b => exact ⟨rfl, rfl⟩
  | deliver via hardwareId i =>
      exact hSame
        (s.sameRouting_session_deliver via hardwareId i).router
  | serve place =>
      exact hSame (s.sameRouting_serve place).router
  | handle place event =>
      exact hSame (s.sameRouting_handle place event).router

/- The rules are what the moves made them last. -/
theorem rules_run
    (s : DeliverySession)
    (moves : List DeliveryMove)
    (token : String) :
    (s.run moves).2.hub.equipment.router.mappings.get? token =
        (DeliveryMove.lastMapped? moves token).or
          (s.hub.equipment.router.mappings.get? token) ∧
      (s.run moves).2.hub.equipment.router.defaultDestination =
        (DeliveryMove.lastDefault? moves).or
          s.hub.equipment.router.defaultDestination := by
  refine runAll_induct
    (P := fun taken _ (u : DeliverySession) =>
      u.hub.equipment.router.mappings.get? token =
          (DeliveryMove.lastMapped? taken token).or
            (s.hub.equipment.router.mappings.get? token) ∧
        u.hub.equipment.router.defaultDestination =
          (DeliveryMove.lastDefault? taken).or
            s.hub.equipment.router.defaultDestination)
    (fun taken _ u m hSoFar => ?_) ⟨rfl, rfl⟩ moves
  rcases u.rules_step m token with ⟨hMapped, hDefault⟩
  rw [DeliveryMove.lastMapped?_concat,
    DeliveryMove.lastDefault?_concat, Option.or_assoc,
    Option.or_assoc, ← hSoFar.1, ← hSoFar.2]
  exact ⟨hMapped, hDefault⟩

/- A router is changed only by moves that configure it. -/
theorem router_step
    {m : DeliveryMove}
    (hPlain : m.isConfiguring = false) :
    (s.step m).2.hub.equipment.router =
      s.hub.equipment.router := by
  cases m with
  | map token id => cases hPlain
  | fallBack id => cases hPlain
  | register id encoding templates mode => cases hPlain
  | control part action =>
      simp only [step, control]
      split
      · rfl
      · rename_i result h hControl
        rcases Hub.controlled_of_control hControl with
          ⟨i, p, t, u, hControlled⟩
        exact hControlled.sameFixtures.router
  | store b => rfl
  | deliver via hardwareId i =>
      exact (s.sameRouting_session_deliver via hardwareId
        i).router
  | serve place => exact (s.sameRouting_serve place).router
  | handle place event =>
      exact (s.sameRouting_handle place event).router

theorem router_run
    {moves : List DeliveryMove}
    (hPlain : ∀ m ∈ moves, m.isConfiguring = false) :
    (s.run moves).2.hub.equipment.router =
      s.hub.equipment.router := by
  refine runAll_induct
    (P := fun taken _ (u : DeliverySession) =>
      (∀ m ∈ taken, DeliveryMove.isConfiguring m = false) →
        u.hub.equipment.router = s.hub.equipment.router)
    (fun _ _ u m hSoFar hPlain => ?_) (fun _ => rfl) moves
    hPlain
  refine (router_step (hPlain m (by simp))).trans
    (hSoFar fun m' hMem => hPlain m' ?_)
  exact List.mem_append_left _ hMem

end Rules

end DeliverySession

end DeviceHub

------------------------------------------------------------
-- Choices
------------------------------------------------------------

namespace DeviceHub

namespace DeliveryMove

/- Whether a move maps a specification. -/
def isMapping : DeliveryMove → Bool
  | map .. => true
  | _ => false

/- The only destination, unless there are mappings. -/
def only?
    (moves : List DeliveryMove) :
    List String → Option String
  | [id] => if moves.any isMapping then none else some id
  | _ => none

/-
  The destination that moves choose: the last one mapped to
  the specification, else the default, else the only one.
-/
def chosen?
    (moves : List DeliveryMove)
    (ids : List String)
    (specificationToken : String) : Option String :=
  ((lastMapped? moves specificationToken).or
    (lastDefault? moves)).or (only? moves ids)

theorem only?_eq_some_iff
    {moves : List DeliveryMove}
    {ids : List String}
    {id : String} :
    only? moves ids = some id ↔
      moves.any isMapping = false ∧ ids = [id] := by
  unfold only?
  split
  · cases moves.any isMapping <;> simp
  · rename_i hMany
    simpa using fun _ hIds => hMany id hIds

theorem only?_eq_none_iff
    {moves : List DeliveryMove}
    {ids : List String} :
    only? moves ids = none ↔
      ¬ (moves.any isMapping = false ∧ ids.length = 1) := by
  rw [← Option.not_isSome_iff_eq_none,
    Option.isSome_iff_exists, List.length_eq_one_iff]
  refine not_congr ⟨?_, ?_⟩
  · rintro ⟨id, hOnly⟩
    exact ⟨(only?_eq_some_iff.1 hOnly).1, id,
      (only?_eq_some_iff.1 hOnly).2⟩
  · rintro ⟨hNone, id, hIds⟩
    exact ⟨id, only?_eq_some_iff.2 ⟨hNone, hIds⟩⟩

/- Without mappings, no specification is mapped. -/
theorem any_isMapping_iff
    {moves : List DeliveryMove} :
    moves.any isMapping = false ↔
      ∀ token, lastMapped? moves token = none := by
  simp only [lastMapped?, List.findSome?_eq_none_iff,
    List.mem_reverse, List.any_eq_false]
  constructor
  · intro hNone token m hMem
    cases m with
    | map => exact absurd rfl (hNone _ hMem)
    | _ => rfl
  · intro hNone m hMem
    cases m with
    | map token id =>
        have hMapped := hNone token _ hMem
        simp [maps?] at hMapped
    | _ => exact Bool.false_ne_true

/- Where the moves choose no destination. -/
theorem chosen?_eq_none_iff
    {moves : List DeliveryMove}
    {ids : List String}
    {token : String} :
    chosen? moves ids token = none ↔
      lastMapped? moves token = none ∧
      lastDefault? moves = none ∧
      ¬ ((∀ t, lastMapped? moves t = none) ∧
        ids.length = 1) := by
  unfold chosen?
  rw [Option.or_eq_none_iff, Option.or_eq_none_iff,
    only?_eq_none_iff, any_isMapping_iff, and_assoc]

end DeliveryMove

namespace DeliverySession

open DeliveryMove

/- The router was started, and not configured since. -/
def RouterStarted
    (s : DeliverySession)
    (moves : List DeliveryMove) : Prop :=
  ∃ first later status,
    moves = first ++ .control .router .start :: later ∧
    ((s.run first).2.step (.control .router .start)).1 =
      some (.controlled .router .start (.ok status)) ∧
    ∀ m ∈ later, m.isConfiguring = false

section Runs

variable {s : DeliverySession}
variable {ids : List String}
variable {moves : List DeliveryMove}

/- A router that was started is one that was checked. -/
theorem RouterStarted.checked
    (hWired : Wired s ids)
    (hStarted : s.RouterStarted moves) :
    (s.run moves).2.hub.equipment.router.Checked := by
  rcases hStarted with
    ⟨first, later, status, rfl, hNote, hPlain⟩
  have hSame : (s.run (first ++ .control .router .start ::
      later)).2.hub.equipment.router =
        ((s.run first).2.step
          (.control .router .start)).2.hub.equipment.router := by
    rw [DeliverySession.run, runAll_append, runAll_cons]
    exact router_run hPlain
  rw [hSame, router_step rfl]
  rcases (hWired.run first).owned with
    ⟨c, ts, hRouter, -⟩
  simp only [step, control] at hNote
  split at hNote
  · cases hNote
  · rename_i result h hControl
    cases hNote
    exact hRouter.checked_of_start hControl

/- A router has one destination if one was accepted. -/
theorem Wired.hasOnly_iff
    (hWired : Wired s ids)
    {id : String} :
    s.hub.equipment.router.HasOnly id ↔
      s.hub.equipment.router.mappings.keys = [] ∧
        ids = [id] := by
  have hPerm :
      s.hub.equipment.router.destinations.keys.Perm ids :=
    (List.perm_ext_iff_of_nodup (Dict.nodup_keys _)
      hWired.nodup).2 fun id' =>
        Dict.mem_keys_iff.trans (hWired.contains_iff id')
  refine and_congr_right fun _ => ?_
  constructor
  · intro hKeys
    exact List.perm_singleton.1 (hKeys ▸ hPerm).symm
  · intro hIds
    exact List.perm_singleton.1 (hIds ▸ hPerm)

/- The place of a destination is that of its id. -/
theorem Wired.place_eq
    (hWired : Wired s ids)
    {id : String}
    {place : Nat}
    (hPlace : s.hub.equipment.router.destinations.get? id =
      some place) :
    place = ids.idxOf id := by
  have hAt := (hWired.placed id place).1 hPlace
  rcases List.getElem?_eq_some_iff.1 hAt with
    ⟨hLength, hId⟩
  rw [← hId, hWired.nodup.idxOf_getElem place hLength]

/- A route leads to the destination of the id. -/
theorem Wired.destination_of_route
    (hWired : Wired s ids)
    {device : Device}
    {id : String}
    {place : Nat}
    (hRoute : s.hub.equipment.router.route device =
      .ok (id, place)) :
    ∃ d, s.destination? place = some d ∧ d.id = id := by
  have hAt :=
    (hWired.placed id place).1 (Router.place_of_route hRoute)
  rw [← hWired.ids_eq, List.getElem?_map] at hAt
  exact Option.map_eq_some_iff.1 hAt

end Runs

end DeliverySession

end DeviceHub

------------------------------------------------------------
-- Devices and Their Destinations
------------------------------------------------------------

namespace DeviceHub

namespace DeliverySession

open DeliveryMove

/- A new router maps what the moves map. -/
theorem mapped_run
    (b : Backend)
    (moves : List DeliveryMove)
    (token : String) :
    ((new (.bare b)).run moves
      ).2.hub.equipment.router.mappings.get? token =
        lastMapped? moves token := by
  rw [((new (.bare b)).rules_run moves token).1]
  exact Option.or_none

/- Its rules name what the moves name. -/
theorem target_run
    (b : Backend)
    (moves : List DeliveryMove)
    (token : String) :
    ((new (.bare b)).run moves
      ).2.hub.equipment.router.target? token =
        (lastMapped? moves token).or
          (lastDefault? moves) := by
  unfold Router.target?
  rw [mapped_run, ((new (.bare b)).rules_run moves token).2]
  exact congrArg _ Option.or_none

/- It has a single destination where the moves leave one. -/
theorem hasOnly_run_iff
    (b : Backend)
    (moves : List DeliveryMove)
    (id : String) :
    let r := (new (.bare b)).run moves
    r.2.hub.equipment.router.HasOnly id ↔
      only? moves (r.1.filterMap (·.registered?)) =
        some id := by
  intro r
  have hWired : Wired r.2 (r.1.filterMap (·.registered?)) :=
    (Wired.bare b).run moves
  have hMapped := mapped_run b moves
  rw [hWired.hasOnly_iff, only?_eq_some_iff,
    any_isMapping_iff, Dict.keys_eq_nil_iff]
  simp only [r, hMapped]

/- The rules of choice come to what the moves choose. -/
theorem route_run
    {b : Backend}
    {moves : List DeliveryMove}
    (hStarted : (new (.bare b)).RouterStarted moves)
    (device : Device) :
    let r := (new (.bare b)).run moves
    let ids := r.1.filterMap (·.registered?)
    let chosen :=
      chosen? moves ids device.specificationToken
    (∀ id, chosen = some id →
      r.2.hub.equipment.router.route device =
        .ok (id, ids.idxOf id)) ∧
    (chosen = none →
      r.2.hub.equipment.router.route device =
        .error (.noRoute device.specificationToken)) := by
  intro r ids chosen
  have hWired : Wired r.2 ids := (Wired.bare b).run moves
  have hChecked : r.2.hub.equipment.router.Checked :=
    hStarted.checked (Wired.bare b)
  have hOnly : ∀ id, r.2.hub.equipment.router.HasOnly id ↔
      only? moves ids = some id := hasOnly_run_iff b moves
  have hChosen : chosen =
      (r.2.hub.equipment.router.target?
        device.specificationToken).or (only? moves ids) := by
    rw [target_run]
    rfl
  rw [hChosen]
  cases hNamed : r.2.hub.equipment.router.target?
      device.specificationToken with
  | some id =>
      refine ⟨fun id' hSome => ?_, fun hNone => by cases hNone⟩
      cases hSome
      rcases hChecked.route_of_some hNamed with
        ⟨place, hPlace, hRoute⟩
      rw [hRoute, hWired.place_eq hPlace]
  | none =>
      rw [Option.none_or]
      constructor
      · intro id hSingle
        have hIds := (only?_eq_some_iff.1 hSingle).2
        have hPlace :
            r.2.hub.equipment.router.destinations.get? id =
              some 0 :=
          (hWired.placed id 0).2 (by rw [hIds]; rfl)
        rw [Router.route_of_only hNamed ((hOnly id).2 hSingle)
          hPlace, hWired.place_eq hPlace]
      · intro hNone
        refine Router.route_of_none hNamed fun id hHas => ?_
        rw [(hOnly id).1 hHas] at hNone
        cases hNone

/- What this tells of the ways a choice can end. -/
theorem route_run_iff
    {b : Backend}
    {moves : List DeliveryMove}
    (hStarted : (new (.bare b)).RouterStarted moves)
    (device : Device) :
    let r := (new (.bare b)).run moves
    let ids := r.1.filterMap (·.registered?)
    let token := device.specificationToken
    let route := r.2.hub.equipment.router.route device
    (∀ id, route ≠ .error (.unknownDestination id)) ∧
    (route = .error (.noRoute token) ↔
      chosen? moves ids token = none) ∧
    ∀ id, chosen? moves ids token = some id →
      route = .ok (id, ids.idxOf id) := by
  intro r ids token route
  rcases route_run hStarted device with ⟨hSome, hNone⟩
  cases hChosen : chosen? moves ids token with
  | none =>
      have hRoute : route = .error (.noRoute token) :=
        hNone hChosen
      rw [hRoute]
      refine ⟨?_, iff_of_true rfl rfl, ?_⟩
      · intro id hSame
        cases hSame
      · intro id hSame
        cases hSame
  | some id =>
      have hRoute : route = .ok (id, ids.idxOf id) :=
        hSome id hChosen
      rw [hRoute]
      refine ⟨?_, iff_of_false ?_ ?_, ?_⟩
      · intro id' hSame
        cases hSame
      · intro hSame
        cases hSame
      · intro hSame
        cases hSame
      · intro id' hSame
        cases hSame
        rfl

section Deliveries

variable {s : DeliverySession}

/- A delivery, as far as destinations are concerned. -/
theorem destination?_deliver
    (s : DeliverySession)
    (via : Option Nat)
    (hardwareId : String)
    (i : CommandInvocation)
    (j : Nat) :
    (s.deliver via hardwareId i).2.destination? j =
      (s.hub.deliver via s.hub.nextTicket hardwareId i
        ).2.equipment.destinations[j]? := by
  unfold deliver
  dsimp only [order]
  split <;> rfl

/- Straight through a place, only what is there changes. -/
theorem destination?_deliver_elsewhere
    (s : DeliverySession)
    (place : Nat)
    (hardwareId : String)
    (i : CommandInvocation)
    {j : Nat}
    (hElsewhere : j ≠ place) :
    (s.deliver (some place) hardwareId i).2.destination? j =
      s.destination? j := by
  rw [destination?_deliver]
  unfold Hub.deliver
  dsimp only
  cases hAt : s.hub.equipment.destinations[place]? with
  | none =>
      rw [Hub.deliverAt_of_none hAt]
      rfl
  | some d =>
      rw [Hub.deliverAt_hub hAt]
      refine (Hub.getElem?_setDestination hAt _ j).trans ?_
      rw [if_neg hElsewhere]
      rfl

/- To serve a place changes nothing elsewhere. -/
theorem destination?_serve_elsewhere
    (s : DeliverySession)
    (place : Nat)
    {j : Nat}
    (hElsewhere : j ≠ place) :
    (s.serve place).2.destination? j = s.destination? j := by
  unfold serve
  split
  · rfl
  · rename_i d hAt
    split
    · rfl
    · split
      · rfl
      · refine (Hub.getElem?_setDestination hAt _ j).trans ?_
        rw [if_neg hElsewhere]
        rfl

/- A delivery through the router goes where it routes. -/
theorem deliver_routed
    {hardwareId id : String}
    {device : Device}
    {place : Nat}
    (hStatus : s.hub.status .router = .started)
    (hDevice : s.hub.equipment.backend.getDevice hardwareId =
      .ok (some device))
    (hRoute : s.hub.equipment.router.route device =
      .ok (id, place))
    (i : CommandInvocation) :
    s.deliver none hardwareId i =
      s.deliver (some place) hardwareId i := by
  have hRouted : s.hub.routeFor hardwareId = .ok place := by
    unfold Hub.routeFor Destination.findDevice
    rw [if_pos hStatus, hDevice]
    dsimp only
    rw [ok_bind, hRoute]
    rfl
  have hRecorded : s.hub.recording.routeFor hardwareId =
      .ok place := hRouted
  simp only [deliver, order, Hub.handsOver, Hub.placeFor?,
    Hub.deliver, hRouted, hRecorded, Except.toOption]

/- A delivery that is not routed is answered at once. -/
theorem deliver_unrouted
    {hardwareId : String}
    {device : Device}
    {e : CommandError}
    (hStatus : s.hub.status .router = .started)
    (hDevice : s.hub.equipment.backend.getDevice hardwareId =
      .ok (some device))
    (hRoute : s.hub.equipment.router.route device = .error e)
    (i : CommandInvocation) :
    (s.deliver none hardwareId i).1 =
        some (.answered (s.order none hardwareId i) none
          (.error e)) ∧
      ∀ j, (s.deliver none hardwareId i).2.destination? j =
        s.destination? j := by
  have hRouted : s.hub.routeFor hardwareId = .error e := by
    unfold Hub.routeFor Destination.findDevice
    rw [if_pos hStatus, hDevice]
    dsimp only
    rw [ok_bind, hRoute]
    rfl
  simp only [deliver, Hub.deliver, hRouted, Hub.placeFor?,
    Except.toOption]
  exact ⟨rfl, fun j => rfl⟩

/- What is held waits at the place that it was sent to. -/
theorem place_of_held
    {place : Nat}
    {hardwareId : String}
    {i : CommandInvocation}
    {o : DeliveryOrder}
    {shipment : Shipment}
    (hHeld : (s.deliver (some place) hardwareId i).1 =
      some (.held o shipment)) :
    shipment.place = place := by
  unfold deliver Hub.deliver Hub.deliverAt at hHeld
  dsimp only at hHeld
  split at hHeld
  · cases hHeld
  · rename_i shipment' hStep
    cases hHeld
    split at hStep
    · cases hStep
    · split at hStep
      · cases hStep
      · cases hStep
        rfl

/-
  A delivery through the router is one to the place that it
  routes to, and what it waits for is waited for there.  At
  any other place, all is as before.
-/
theorem deliver_goes
    {hardwareId id : String}
    {device : Device}
    {place : Nat}
    (hStatus : s.hub.status .router = .started)
    (hDevice : s.hub.equipment.backend.getDevice hardwareId =
      .ok (some device))
    (hRoute : s.hub.equipment.router.route device =
      .ok (id, place))
    (i : CommandInvocation) :
    let answer := s.deliver none hardwareId i
    answer = s.deliver (some place) hardwareId i ∧
      (∀ o shipment,
        answer.1 = some (.held o shipment) →
        shipment.place = place) ∧
      ∀ j, j ≠ place →
        answer.2.destination? j = s.destination? j ∧
        (answer.2.serve place).2.destination? j =
          s.destination? j := by
  intro answer
  have hAnswer : answer = s.deliver (some place)
      hardwareId i :=
    deliver_routed hStatus hDevice hRoute i
  refine ⟨hAnswer, ?_, ?_⟩
  · intro o shipment hHeld
    rw [hAnswer] at hHeld
    exact place_of_held hHeld
  · intro j hElsewhere
    have hSame : answer.2.destination? j =
        s.destination? j := by
      rw [hAnswer]
      exact s.destination?_deliver_elsewhere place
        hardwareId i hElsewhere
    exact ⟨hSame, (answer.2.destination?_serve_elsewhere
      place hElsewhere).trans hSame⟩

end Deliveries

/-
  Whatever moves are made with a new router, an id that is
  taken is refused and changes nothing, and the router owns
  the components of the accepted destinations, in order, no
  two of which have the same id.

  Once the router was started, and unless it is configured
  after that, every device has the destination that the moves
  choose, and no route leads to one that is not there.  A
  delivery goes to this destination and to no other.
-/
theorem started_router_routes
    (b : Backend)
    (moves : List DeliveryMove) :
    let r := (new (.bare b)).run moves
    let s := r.2
    let ids := r.1.filterMap (·.registered?)
    (∀ id encoding templates mode,
      let move := .register id encoding templates mode
      (id ∈ ids → s.step move =
        (some (.refused (.duplicateDestination id)), s)) ∧
      (id ∉ ids → (s.step move).1 = some (.registered id))) ∧
    ids.Nodup ∧
    s.hub.equipment.destinations.map (·.id) = ids ∧
    (∃ c ts, s.hub.forest = [.node c ts] ∧
      c.label = .router ∧
      ts.map Tree.tag = destinationTags ids) ∧
    ((new (.bare b)).RouterStarted moves →
      ∀ device : Device,
        let token := device.specificationToken
        let route := s.hub.equipment.router.route device
        (∀ id, route ≠ .error (.unknownDestination id)) ∧
        (route = .error (.noRoute token) ↔
          lastMapped? moves token = none ∧
          lastDefault? moves = none ∧
          ¬ ((∀ t, lastMapped? moves t = none) ∧
            ids.length = 1)) ∧
        (∀ id, chosen? moves ids token = some id →
          route = .ok (id, ids.idxOf id)) ∧
        ∀ hardwareId i,
          s.hub.status .router = .started →
          s.hub.equipment.backend.getDevice hardwareId =
            .ok (some device) →
          let answer := s.step (.deliver none hardwareId i)
          (∀ e, route = .error e →
            answer.1 = some (.answered
              (s.order none hardwareId i) none (.error e)) ∧
            ∀ j, answer.2.destination? j =
              s.destination? j) ∧
          ∀ id place, route = .ok (id, place) →
            (∃ d, s.destination? place = some d ∧
              d.id = id) ∧
            answer =
              s.step (.deliver (some place) hardwareId i) ∧
            (∀ o shipment,
              answer.1 = some (.held o shipment) →
              shipment.place = place) ∧
            ∀ j, j ≠ place →
              answer.2.destination? j = s.destination? j ∧
              (answer.2.step (.serve place)).2.destination?
                j = s.destination? j) := by
  intro r s ids
  have hWired : Wired s ids := (Wired.bare b).run moves
  refine ⟨?_, hWired.nodup, hWired.ids_eq, ?_, ?_⟩
  · intro id encoding templates mode
    exact ⟨fun hTaken => hWired.register_taken hTaken,
      fun hFree => (hWired.register_free hFree).1⟩
  · rcases hWired.owned with ⟨c, ts, hRouter, hTags⟩
    exact ⟨c, ts, hRouter.forest, hRouter.label, hTags⟩
  intro hStarted device token route
  rcases route_run_iff hStarted device with
    ⟨hKnown, hNoRoute, hChosen⟩
  refine ⟨hKnown, hNoRoute.trans chosen?_eq_none_iff,
    hChosen, ?_⟩
  intro hardwareId i hStatus hDevice answer
  refine ⟨fun e hRoute =>
    deliver_unrouted hStatus hDevice hRoute i, ?_⟩
  intro id place hRoute
  exact ⟨hWired.destination_of_route hRoute,
    deliver_goes hStatus hDevice hRoute i⟩

/- A storage with one device. -/
def onePump : Backend :=
  .of (.addDevice .empty (.new "a" "pump" default)) default
    toString

/- Two destinations, the second one for pumps. -/
def pumpRouting : List DeliveryMove :=
  [.register "main" .json none .drained,
    .register "side" .json none .drained,
    .map "pump" "side", .fallBack "main",
    .control .router .start]

theorem routerStarted_pumpRouting :
    (new (.bare onePump)).RouterStarted pumpRouting :=
  ⟨pumpRouting.take 4, [], .started, rfl, rfl,
    fun _ hMem => by cases hMem⟩

/-
  A pump goes to the destination that pumps are mapped to,
  though it is not the default, and the id of the default is
  not given to another one.
-/
theorem started_router_routes_pump :
    let device : Device := .new "a" "pump" default
    let again : DeliveryMove :=
      .register "main" .json none .drained
    let s := ((new (.bare onePump)).run pumpRouting).2
    (new (.bare onePump)).RouterStarted pumpRouting ∧
      s.step again =
        (some (.refused (.duplicateDestination "main")), s) ∧
      s.hub.equipment.router.route device =
        .ok ("side", 1) ∧
      ∀ i, s.step (.deliver none "a" i) =
        s.step (.deliver (some 1) "a" i) := by
  intro device again s
  rcases started_router_routes onePump pumpRouting with
    ⟨hRegister, -, -, -, hRoutes⟩
  rcases hRoutes routerStarted_pumpRouting device with
    ⟨-, -, hChosen, hSent⟩
  have hTaken : "main" ∈ ["main", "side"] := by decide
  have hRoute : s.hub.equipment.router.route device =
      .ok ("side", 1) := hChosen "side" rfl
  refine ⟨routerStarted_pumpRouting,
    (hRegister "main" .json none .drained).1 hTaken, hRoute,
    fun i => ?_⟩
  exact ((hSent "a" i rfl rfl).2 "side" 1 hRoute).2.1

end DeliverySession

end DeviceHub
