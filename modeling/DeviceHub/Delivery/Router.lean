import DeviceHub.Delivery.Destination

/-
  The choice of a destination for each device.

  A device goes to the destination mapped to its
  specification, or to the default.  With neither mappings
  nor default, the only destination takes everything.

  Key definitions include:
    * `Router`
    * `Router.register`
    * `Router.route`
    * `Router.configurationError?`
-/

namespace DeviceHub

/-
  A router: destinations by id, each with its place among
  all destinations, and the rules of choice.
-/
structure Router where
  destinations : Dict Nat
  mappings : Dict String
  defaultDestination : Option String
  deriving Inhabited

namespace Router

/- The name of the component. -/
def componentName : String :=
  "command-router"

/- A router without destinations. -/
def new
    (mappings : Dict String)
    (defaultDestination : Option String) : Router :=
  ⟨.empty, mappings, defaultDestination⟩

/- Register a destination under an id not taken yet. -/
def register
    (r : Router)
    (id : String)
    (place : Nat) : Except CommandError Router :=
  if r.destinations.contains id then
    .error (.duplicateDestination id)
  else
    .ok { r with
      destinations := r.destinations.insert id place }

/- The id of the destination for a device's specification. -/
def choose?
    (r : Router)
    (specificationToken : String) : Option String :=
  match (r.mappings.get? specificationToken).or
      r.defaultDestination with
  | some id => some id
  | none =>
      match r.mappings.keys, r.destinations.keys with
      | [], [only] => some only
      | _, _ => none

/- The destination for a device: its id and its place. -/
def route
    (r : Router)
    (device : Device) : Except CommandError (String × Nat) :=
  match r.choose? device.specificationToken with
  | none => .error (.noRoute device.specificationToken)
  | some id =>
      match r.destinations.get? id with
      | none => .error (.unknownDestination id)
      | some place => .ok (id, place)

/- The first mapping to a destination that is not there. -/
def danglingMapping?
    (r : Router) : Option (String × String) :=
  r.mappings.entries.find? fun m =>
    !r.destinations.contains m.2

/- What is wrong with the rules of choice. -/
def configurationError?
    (r : Router) : Option String :=
  if r.destinations.keys.isEmpty then
    some "no command destinations registered"
  else
    match r.danglingMapping? with
    | some (specification, id) =>
        some (s!"specification '{specification}' is mapped " ++
          s!"to unknown destination '{id}'")
    | none =>
        match r.defaultDestination with
        | none => none
        | some id =>
            if r.destinations.contains id then
              none
            else
              some (s!"default destination '{id}' " ++
                "is not registered")

/- Check the rules of choice. -/
def check
    (r : Router) : Except LifecycleError Unit :=
  match r.configurationError? with
  | none => .ok ()
  | some reason =>
      .error (.configuration s!"{componentName}: {reason}")

end Router

end DeviceHub
