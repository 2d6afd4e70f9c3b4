import DeviceHub.Problem

/-
  What can go wrong between payloads and events, and between
  commands and their encodings.

  Key definitions include:
    * `CodecError`
    * `CodecError.message`
    * `CodecError.problem`
-/

namespace DeviceHub

/- Errors of decoders and encoders. -/
inductive CodecError where
  | malformedPayload (detail : String)
  | unknownCommand (token : String)
  | missingParameter (command parameter : String)
  | unknownParameter (command parameter : String)
  | invalidParameter (command parameter expected : String)
  | encoding (detail : String)
  | configuration (detail : String)
  deriving DecidableEq, Inhabited, Repr

namespace CodecError

/- The name of the cause. -/
def cause : CodecError → String
  | malformedPayload _ => "MalformedPayload"
  | unknownCommand _ => "UnknownCommand"
  | missingParameter .. => "MissingParameter"
  | unknownParameter .. => "UnknownParameter"
  | invalidParameter .. => "InvalidParameter"
  | encoding _ => "Encoding"
  | configuration _ => "Configuration"

/- The message. -/
def message : CodecError → String
  | malformedPayload detail => s!"Malformed payload: {detail}"
  | unknownCommand token => s!"Unknown command: {token}"
  | missingParameter command parameter =>
      s!"Command '{command}' is missing required " ++
        s!"parameter '{parameter}'"
  | unknownParameter command parameter =>
      s!"Command '{command}' has no parameter named " ++
        s!"'{parameter}'"
  | invalidParameter command parameter expected =>
      s!"Command '{command}' parameter '{parameter}' is " ++
        s!"not a valid {expected}"
  | encoding detail => s!"Encoding error: {detail}"
  | configuration detail => s!"Configuration error: {detail}"

/- The code. -/
def code : CodecError → ErrorCode
  | malformedPayload _ => .malformedPayload
  | unknownCommand _ => .unknownCommand
  | missingParameter .. => .missingCommandParameter
  | unknownParameter .. => .unknownCommandParameter
  | invalidParameter .. => .unknownCommandParameter
  | encoding _ => .encodingFailed
  | configuration _ => .configuration

/- The error as callers see it. -/
def problem
    (e : CodecError) : Problem :=
  .of e.cause e.message e.code

end CodecError

end DeviceHub
