import DeviceHub.Delivery.Transport
import DeviceHub.Json.Reader

/-
  The notation for scripted transports.

  A reply is empty to accept a message, "hold" to keep it
  waiting, or the kind of an error with a colon and its
  text.

  Key definitions include:
    * `Reply.ofText`
    * `Script.reader`
-/

namespace DeviceHub

/- The error that a kind and a text stand for. -/
def DeliveryError.ofKind?
    (kind detail : String) : Option DeliveryError :=
  match kind with
  | "reject" => some (.rejected detail)
  | "closed" => some (.channelClosed detail)
  | "other" => some (.other detail)
  | _ => none

/- The error that a text stands for, if it does. -/
def DeliveryError.ofText?
    (s : String) : Option DeliveryError :=
  (Text.splitFirst? ':' s).bind fun p => ofKind? p.1 p.2

/- The reply that a text stands for. -/
def Reply.ofText
    (s : String) : Reply :=
  match DeliveryError.ofText? s with
  | some e => refuse e
  | none => if s == "hold" then hold else accept

open Json in
/- Read a script; what is left out goes well. -/
def Script.reader : Reader Script :=
  fun p d => do
    let m ← Members.of? ["script", "startFail", "stopFail"]
      p d
    let replies ← m.optional "script" (.list .text)
    let startError ← m.optional "startFail" .text
    let stopError ← m.optional "stopFail" .text
    some ⟨(replies.getD []).map Reply.ofText,
      startError.bind DeliveryError.ofText?,
      stopError.bind DeliveryError.ofText?⟩

end DeviceHub
