import DeviceHub.Codec.Error
import DeviceHub.Model.Command
import DeviceHub.Text.Blank

/-
  Checking the values given for a command's parameters.

  Every value has to belong to a declared parameter.  A
  blank value counts as none.

  Key definitions include:
    * `CommandDefinition.declares`
    * `CommandDefinition.checkParameters`
-/

namespace DeviceHub

namespace CommandDefinition

/- Whether a parameter of that name is declared. -/
def declares
    (c : CommandDefinition)
    (name : String) : Bool :=
  c.parameters.any (·.name == name)

/- The value of a declared parameter, if it has one. -/
def valueOf
    (values : Dict String)
    (parameter : CommandParameter) : Option String :=
  (values.get? parameter.name).filter (!Text.isBlank ·)

/-
  Go through the declared parameters in order, collecting
  the values that are given.
-/
def checkDeclared
    (c : CommandDefinition)
    (values found : Dict String) :
    List CommandParameter → Except CodecError (Dict String)
  | [] => .ok found
  | parameter :: rest =>
      match valueOf values parameter with
      | some value =>
          if parameter.parameterType.accepts value then
            checkDeclared c values
              (found.insert parameter.name value) rest
          else
            .error (.invalidParameter c.token parameter.name
              parameter.parameterType.name)
      | none =>
          if parameter.required then
            .error (.missingParameter c.token parameter.name)
          else
            checkDeclared c values found rest

/- The values to send, or the first thing wrong with them. -/
def checkParameters
    (c : CommandDefinition)
    (values : Dict String) :
    Except CodecError (Dict String) :=
  match values.keys.find? (!c.declares ·) with
  | some name => .error (.unknownParameter c.token name)
  | none => checkDeclared c values .empty c.parameters

end CommandDefinition

namespace CommandExecution

/- The values to send with an execution. -/
def parameters
    (e : CommandExecution) :
    Except CodecError (Dict String) :=
  e.command.checkParameters e.invocation.parameterValues

end CommandExecution

end DeviceHub
