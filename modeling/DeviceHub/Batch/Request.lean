import DeviceHub.Batch.Error
import DeviceHub.Json.Printer
import DeviceHub.Model.Command
import DeviceHub.Model.Search
import DeviceHub.Store.Backend

/-
  Requests for batch operations: what to do, and to which
  devices.

  Key definitions include:
    * `BatchAction`
    * `BatchCriteria`
    * `BatchCriteria.search`
    * `BatchTargets`
    * `BatchTargets.resolve`
    * `BatchRequest`
-/

namespace DeviceHub

------------------------------------------------------------
-- Actions
------------------------------------------------------------

/- What to do with every device. -/
inductive BatchAction where
  | invokeCommand
      (commandToken : String)
      (parameterValues : Dict String)
  | updateState
      (kind : EventKind)
      (metadata : Dict String)
  deriving Inhabited

namespace BatchAction

/- The name of an action. -/
def name : BatchAction → String
  | invokeCommand .. => "invokeCommand"
  | updateState .. => "updateState"

/- The JSON form. -/
def toJson
    (a : BatchAction) : Json :=
  .record (("type", .text a.name) ::
    match a with
    | invokeCommand token values =>
        [("commandToken", .text token),
          ("parameterValues", .textDict values)]
    | updateState kind metadata =>
        [("kind", kind.toJson),
          ("metadata", .textDict metadata)])

open Json in
/- Read the JSON form. -/
def reader : Reader BatchAction :=
  fun p d => do
    let t ← Members.tagged? "type"
      ["invokeCommand", "updateState"] p d
    match t.tag with
    | "invokeCommand" =>
        let m ← t.members? ["commandToken", "parameterValues"]
          p
        let token ← m.required "commandToken" .text
        let values ← m.withDefault "parameterValues" .empty
          .textDict
        some (invokeCommand token values)
    | "updateState" =>
        let m ← t.members? ["kind", "metadata"] p
        let kind ← m.required "kind" EventKind.reader
        let metadata ← m.withDefault "metadata" .empty
          .textDict
        some (updateState kind metadata)
    | _ => none

end BatchAction

------------------------------------------------------------
-- Criteria
------------------------------------------------------------

/- Devices chosen by what they are; blank texts say nothing. -/
structure BatchCriteria where
  groupToken : Option String
  groupsWithRole : Option String
  specificationToken : Option String
  excludeAssigned : Bool
  startDate : Option Instant
  endDate : Option Instant
  deriving DecidableEq, Inhabited, Repr

namespace BatchCriteria

/- The devices with a specification. -/
def ofSpecification
    (token : String) : BatchCriteria :=
  ⟨none, none, some token, false, none, none⟩

/- The search for the devices, all on one page. -/
def search
    (c : BatchCriteria) : Except BatchError DeviceSearch :=
  match Text.nonBlank? c.specificationToken with
  | none => .error .missingSpecificationToken
  | some specification =>
      if (Text.nonBlank? c.groupToken).isSome &&
          (Text.nonBlank? c.groupsWithRole).isSome then
        .error .conflictingGroupCriteria
      else
        .ok
          { specificationToken := some specification
            excludeAssigned := c.excludeAssigned
            startDate := c.startDate
            endDate := c.endDate
            pageNumber := 1
            pageSize := 0 }

/- The JSON form. -/
def toJson
    (c : BatchCriteria) : Json :=
  .record
    [("groupToken", .text? c.groupToken),
      ("groupsWithRole", .text? c.groupsWithRole),
      ("specificationToken", .text? c.specificationToken),
      ("excludeAssigned", .bool c.excludeAssigned),
      ("startDate", .ofOption .instant c.startDate),
      ("endDate", .ofOption .instant c.endDate)]

open Json in
/- Read the JSON form. -/
def reader : Reader BatchCriteria :=
  fun p d => do
    let m ← Members.of?
      ["groupToken", "groupsWithRole", "specificationToken",
        "excludeAssigned", "startDate", "endDate"] p d
    let group ← m.optional "groupToken" .text
    let role ← m.optional "groupsWithRole" .text
    let specification ← m.optional "specificationToken" .text
    let exclude ← m.withDefault "excludeAssigned" false .bool
    let startDate ← m.optional "startDate" .instant
    let endDate ← m.optional "endDate" .instant
    some ⟨group, role, specification, exclude, startDate,
      endDate⟩

end BatchCriteria

------------------------------------------------------------
-- Targets
------------------------------------------------------------

/- The devices of an operation. -/
inductive BatchTargets where
  | devices (ids : List String)
  | criteria (c : BatchCriteria)
  deriving DecidableEq, Inhabited, Repr

namespace BatchTargets

/- The JSON form. -/
def toJson : BatchTargets → Json
  | devices ids => .record [("devices", .texts ids)]
  | criteria c => .record [("criteria", c.toJson)]

/- Read the JSON form. -/
def reader : Json.Reader BatchTargets :=
  .choice (fun _ => none) fun name p d =>
    match name with
    | "devices" =>
        (Json.Reader.list .text p d).map devices
    | "criteria" => (BatchCriteria.reader p d).map criteria
    | _ => none

/- Ids without white space around them and not blank. -/
def cleaned
    (ids : List String) : List String :=
  (ids.filter (!Text.isBlank ·)).map Text.trim

/- The first occurrence of every id. -/
def distinct
    (seen : List String) : List String → List String
  | [] => []
  | id :: rest =>
      if seen.contains id then
        distinct seen rest
      else
        id :: distinct (id :: seen) rest

/- A failure of the storage, as one of the engine. -/
def stored
    {α : Type}
    (r : Except StoreError α) : Except BatchError α :=
  r.mapError .management

/- How a storage looks up the devices of criteria. -/
def lookUp
    (b : Backend)
    (c : BatchCriteria)
    (search : DeviceSearch) :
    Except StoreError (List Device) :=
  match Text.nonBlank? c.groupToken,
      Text.nonBlank? c.groupsWithRole with
  | some group, _ => b.devicesOfGroup group search
  | none, some role => b.devicesWithRole role search
  | none, none => (b.listDevices search).map (·.results)

/-
  The ids of the devices, in order and each once, for a way
  to look up the devices of criteria.
-/
def resolveWith
    (answer : BatchCriteria → DeviceSearch →
      Except StoreError (List Device)) :
    BatchTargets → Except BatchError (List String)
  | devices ids => .ok (distinct [] (cleaned ids))
  | criteria c => do
      let search ← c.search
      let found ← stored (answer c search)
      return distinct [] (found.map (·.hardwareId))

/- The ids of the devices, as a storage knows them. -/
def resolve
    (b : Backend)
    (t : BatchTargets) : Except BatchError (List String) :=
  t.resolveWith (lookUp b)

end BatchTargets

------------------------------------------------------------
-- Requests
------------------------------------------------------------

/- A request for a new operation. -/
structure BatchRequest where
  id : Option String
  action : BatchAction
  targets : BatchTargets
  metadata : Dict String
  deriving Inhabited

namespace BatchRequest

/- A request that says nothing beyond action and targets. -/
def new
    (action : BatchAction)
    (targets : BatchTargets) : BatchRequest :=
  ⟨none, action, targets, .empty⟩

/- Give a parameter of the command a value. -/
def setParameter
    (r : BatchRequest)
    (name value : String) : BatchRequest :=
  match r.action with
  | .invokeCommand token values =>
      { r with action :=
        .invokeCommand token (values.insert name value) }
  | .updateState .. => r

/- The JSON form. -/
def toJson
    (r : BatchRequest) : Json :=
  .record
    [("id", .text? r.id), ("action", r.action.toJson),
      ("targets", r.targets.toJson),
      ("metadata", .textDict r.metadata)]

open Json in
/- Read the JSON form. -/
def reader : Reader BatchRequest :=
  fun p d => do
    let m ← Members.of?
      ["id", "action", "targets", "metadata"] p d
    let id ← m.optionalDefault "id" .text
    let action ← m.required "action" BatchAction.reader
    let targets ← m.required "targets" BatchTargets.reader
    let metadata ← m.withDefault "metadata" .empty .textDict
    some ⟨id, action, targets, metadata⟩

end BatchRequest

end DeviceHub
