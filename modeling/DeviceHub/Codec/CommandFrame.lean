import DeviceHub.Codec.Parameters
import DeviceHub.Codec.Wire
import DeviceHub.Json.Printer

/-
  Encodings of commands: a JSON record, a binary frame, and
  a line of plain text.

  Key definitions include:
    * `CommandFrame`
    * `CommandExecution.toJsonText`
    * `CommandExecution.toFrame`
    * `CommandExecution.toLine`
-/

namespace DeviceHub

------------------------------------------------------------
-- Binary Frames
------------------------------------------------------------

/- A command on its way to a device. -/
structure CommandFrame where
  commandToken : String
  invocationId : String
  hardwareId : String
  assignmentToken : String
  parameters : Dict String
  deriving Inhabited

namespace CommandFrame

/- The bytes of a frame. -/
def toBytes
    (f : CommandFrame) : List UInt8 :=
  Wire.putText f.commandToken ++
    Wire.putText f.invocationId ++
    Wire.putText f.hardwareId ++
    Wire.putText f.assignmentToken ++
    Wire.putDict Wire.putText f.parameters

/- Take a frame. -/
def take? : Wire.Reader CommandFrame :=
  fun bytes => do
    let (commandToken, rest) ← Wire.text bytes
    let (invocationId, rest) ← Wire.text rest
    let (hardwareId, rest) ← Wire.text rest
    let (assignmentToken, rest) ← Wire.text rest
    let (parameters, rest) ← Wire.dict Wire.text rest
    some (⟨commandToken, invocationId, hardwareId,
      assignmentToken, parameters⟩, rest)

/- The frame at the front of the bytes. -/
def ofBytes
    (bytes : List UInt8) : Except CodecError CommandFrame :=
  match take? bytes with
  | some (f, _) => .ok f
  | none => .error (.malformedPayload "Invalid frame")

/- The JSON form. -/
def toJson
    (f : CommandFrame) : Json :=
  .record
    [("command_token", .text f.commandToken),
      ("invocation_id", .text f.invocationId),
      ("hardware_id", .text f.hardwareId),
      ("assignment_token", .text f.assignmentToken),
      ("parameters", .textDict f.parameters)]

open Json in
/- Read the JSON form. -/
def reader : Reader CommandFrame :=
  fun p d => do
    let m ← Members.of?
      ["command_token", "invocation_id", "hardware_id",
        "assignment_token", "parameters"] p d
    let commandToken ← m.required "command_token" .text
    let invocationId ← m.required "invocation_id" .text
    let hardwareId ← m.required "hardware_id" .text
    let assignmentToken ← m.required "assignment_token" .text
    let parameters ← m.required "parameters" .textDict
    some ⟨commandToken, invocationId, hardwareId,
      assignmentToken, parameters⟩

end CommandFrame

------------------------------------------------------------
-- Encodings
------------------------------------------------------------

namespace CommandExecution

/- The frame of an execution. -/
def toFrame
    (e : CommandExecution) :
    Except CodecError CommandFrame := do
  let parameters ← e.parameters
  return {
    commandToken := e.command.token
    invocationId := e.invocation.id
    hardwareId := e.hardwareId
    assignmentToken := e.assignmentToken
    parameters := parameters }

/- The bytes of the frame. -/
def toFrameBytes
    (e : CommandExecution) :
    Except CodecError (List UInt8) := do
  let frame ← e.toFrame
  return frame.toBytes

/- The JSON record; its namespace is left out if absent. -/
def toJson
    (e : CommandExecution)
    (parameters : Dict String) : Json :=
  let nameSpace :=
    match e.command.nameSpace with
    | some n => [("namespace", Json.text n)]
    | none => []
  .record
    ([("command", .text e.command.name),
      ("commandToken", .text e.command.token)] ++
      nameSpace ++
      [("invocationId", .text e.invocation.id),
        ("hardwareId", .text e.hardwareId),
        ("assignmentToken", .text e.assignmentToken),
        ("parameters", .textDict parameters)])

/- The JSON record as text. -/
def toJsonText
    (e : CommandExecution) : Except CodecError String := do
  let parameters ← e.parameters
  return (e.toJson parameters).compact

/- The bytes of the JSON record. -/
def toJsonBytes
    (e : CommandExecution) :
    Except CodecError (List UInt8) := do
  let s ← e.toJsonText
  return Json.utf8 s

/- The name, then each parameter in order of names. -/
def toLine
    (e : CommandExecution) : Except CodecError String := do
  let parameters ← e.parameters
  let words := parameters.entries.map fun p =>
    " " ++ p.1 ++ "=" ++ p.2
  return e.command.name ++ String.join words

end CommandExecution

end DeviceHub
