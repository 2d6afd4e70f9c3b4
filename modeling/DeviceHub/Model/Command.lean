import DeviceHub.Model.Event
import DeviceHub.Numeric.Literal

/-
  Commands, their parameters, and requests to run them.

  Key definitions include:
    * `ParameterType`
    * `ParameterType.accepts`
    * `CommandDefinition`
    * `CommandInvocation`
    * `CommandExecution`
-/

namespace DeviceHub

------------------------------------------------------------
-- Parameters
------------------------------------------------------------

/- The type of a parameter. -/
inductive ParameterType where
  | string
  | int32
  | int64
  | float
  | double
  | bool
  deriving DecidableEq, Inhabited, Repr

namespace ParameterType

/- All types. -/
def all : List ParameterType :=
  [string, int32, int64, float, double, bool]

/- The name of a type. -/
def name : ParameterType → String
  | string => "String"
  | int32 => "Int32"
  | int64 => "Int64"
  | float => "Float"
  | double => "Double"
  | bool => "Bool"

/-
  Whether a text is a value of a type.  A floating-point
  text is one whatever its size: far out it is infinite.
-/
def accepts
    (t : ParameterType)
    (value : String) : Bool :=
  match t with
  | string => true
  | int32 =>
      ((Literal.integer? value).filter
        (Word.isSigned 32)).isSome
  | int64 => (Literal.int64? value).isSome
  | float => Literal.isReal value
  | double => Literal.isReal value
  | bool => value == "true" || value == "false"

/- The JSON form. -/
def toJson
    (t : ParameterType) : Json :=
  .text t.name

/- Read the JSON form. -/
def reader : Json.Reader ParameterType :=
  .name (all.map fun t => (t.name, t))

end ParameterType

/- One declared parameter of a command. -/
structure CommandParameter where
  name : String
  parameterType : ParameterType
  required : Bool
  deriving DecidableEq, Inhabited, Repr

namespace CommandParameter

/- The JSON form. -/
def toJson
    (c : CommandParameter) : Json :=
  .record
    [("name", .text c.name),
      ("parameterType", c.parameterType.toJson),
      ("required", .bool c.required)]

open Json in
/- Read the JSON form. -/
def reader : Reader CommandParameter :=
  fun p d => do
    let m ← Members.of?
      ["name", "parameterType", "required"] p d
    let name ← m.required "name" .text
    let type ← m.required "parameterType"
      ParameterType.reader
    let required ← m.withDefault "required" false .bool
    some ⟨name, type, required⟩

end CommandParameter

------------------------------------------------------------
-- Definitions
------------------------------------------------------------

/- A command that devices understand. -/
structure CommandDefinition where
  token : String
  nameSpace : Option String
  name : String
  description : Option String
  parameters : List CommandParameter
  deriving DecidableEq, Inhabited, Repr

namespace CommandDefinition

/- A command without parameters. -/
def new
    (token name : String) : CommandDefinition :=
  ⟨token, none, name, none, []⟩

/- The JSON form. -/
def toJson
    (c : CommandDefinition) : Json :=
  .record
    [("token", .text c.token),
      ("namespace", .text? c.nameSpace),
      ("name", .text c.name),
      ("description", .text? c.description),
      ("parameters",
        .list (c.parameters.map CommandParameter.toJson))]

open Json in
/- Read the JSON form. -/
def reader : Reader CommandDefinition :=
  fun p d => do
    let m ← Members.of?
      ["token", "namespace", "name", "description",
        "parameters"] p d
    let token ← m.required "token" .text
    let nameSpace ← m.optionalDefault "namespace" .text
    let name ← m.required "name" .text
    let description ← m.optionalDefault "description" .text
    let parameters ← m.withDefault "parameters" []
      (.list CommandParameter.reader)
    some ⟨token, nameSpace, name, description, parameters⟩

end CommandDefinition

------------------------------------------------------------
-- Invocations
------------------------------------------------------------

/- A request to run a command on a device. -/
structure CommandInvocation where
  id : String
  commandToken : String
  parameterValues : Dict String
  initiator : CommandInitiator
  initiatorId : Option String
  metadata : Dict String
  deriving Inhabited

namespace CommandInvocation

/- A request without parameters. -/
def new
    (id commandToken : String) : CommandInvocation :=
  ⟨id, commandToken, .empty, .rest, none, .empty⟩

/- The JSON form. -/
def toJson
    (i : CommandInvocation) : Json :=
  .record
    [("id", .text i.id),
      ("commandToken", .text i.commandToken),
      ("parameterValues", .textDict i.parameterValues),
      ("initiator", i.initiator.toJson),
      ("initiatorId", .text? i.initiatorId),
      ("metadata", .textDict i.metadata)]

open Json in
/- Read the JSON form. -/
def reader : Reader CommandInvocation :=
  fun p d => do
    let m ← Members.of?
      ["id", "commandToken", "parameterValues", "initiator",
        "initiatorId", "metadata"] p d
    let id ← m.required "id" .text
    let token ← m.required "commandToken" .text
    let values ← m.withDefault "parameterValues" .empty
      .textDict
    let initiator ← m.withDefault "initiator" default
      CommandInitiator.reader
    let initiatorId ← m.optionalDefault "initiatorId" .text
    let metadata ← m.withDefault "metadata" .empty .textDict
    some ⟨id, token, values, initiator, initiatorId,
      metadata⟩

end CommandInvocation

/- A request together with all it takes to encode it. -/
structure CommandExecution where
  command : CommandDefinition
  invocation : CommandInvocation
  hardwareId : String
  assignmentToken : String
  deriving Inhabited

end DeviceHub
