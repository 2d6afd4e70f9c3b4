import DeviceHub.Instant.Basic
import DeviceHub.Dict
import DeviceHub.Numeric.Literal
import DeviceHub.Text.Blank

/-
  What the transport tells about a payload.

  Key definitions include:
    * `Context`
    * `Context.received`
    * `Context.enqueueTime?`
    * `Context.withSource`
-/

namespace DeviceHub

/- Facts that come with a payload, by name. -/
abbrev Context :=
  Dict String

namespace Context

/- The fact that says when a payload was received. -/
def enqueueTimeKey : String :=
  "enqueueTime"

/- The fact that says where a payload came from. -/
def sourceIdKey : String :=
  "sourceId"

/- The context of a payload that a source hands over now. -/
def received
    (now : Instant)
    (sourceId : String) : Context :=
  .ofList [(enqueueTimeKey, toString now.toMillis),
    (sourceIdKey, sourceId)]

/- When the payload was received, in milliseconds. -/
def enqueueTime?
    (c : Context) : Option Instant := do
  let value ← c.get? enqueueTimeKey
  let millis ← Literal.int64? (Text.trim value)
  Instant.ofMillis? millis

/- Name the source, unless the context names one already. -/
def withSource
    (c : Context)
    (sourceId : String) : Context :=
  if c.contains sourceIdKey then c
  else c.insert sourceIdKey sourceId

end Context

end DeviceHub
