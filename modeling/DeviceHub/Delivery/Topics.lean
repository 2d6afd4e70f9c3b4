import DeviceHub.Delivery.Error
import DeviceHub.Text.Search

/-
  Topics of devices, made from templates.

  A hardware id that would add a level or a wildcard to a
  topic is refused.

  Key definitions include:
    * `Topics.expand`
    * `TopicTemplates`
    * `TopicTemplates.topicsFor`
-/

namespace DeviceHub

namespace Topics

/- The part of a template that a hardware id takes. -/
def placeholder : String :=
  "\x7bhardware_id\x7d"

/- A template with the hardware id in place. -/
def expand
    (template hardwareId : String) : String :=
  Text.replaceAll placeholder hardwareId template

/- Characters with a meaning in topics. -/
def isReserved
    (c : Char) : Bool :=
  c = '/' || c = '+' || c = '#'

end Topics

/- The topics of one device. -/
structure TopicParams where
  commandTopic : String
  systemTopic : String
  deriving DecidableEq, Inhabited, Repr

namespace TopicParams

/- The JSON form. -/
def toJson
    (t : TopicParams) : Json :=
  .record
    [("commandTopic", .text t.commandTopic),
      ("systemTopic", .text t.systemTopic)]

open Json in
/- Read the JSON form. -/
def reader : Reader TopicParams :=
  fun p d => do
    let m ← Members.of? ["commandTopic", "systemTopic"] p d
    let commandTopic ← m.required "commandTopic" .text
    let systemTopic ← m.required "systemTopic" .text
    some ⟨commandTopic, systemTopic⟩

end TopicParams

/- The topics of all devices. -/
structure TopicTemplates where
  command : String
  system : String
  deriving DecidableEq, Repr

namespace TopicTemplates

/- The templates that are used unless others are given. -/
def standard : TopicTemplates :=
  ⟨"fleetwire/command/" ++ Topics.placeholder,
    "fleetwire/system/" ++ Topics.placeholder⟩

instance : Inhabited TopicTemplates :=
  ⟨standard⟩

/- The topics of a device. -/
def topicsFor
    (t : TopicTemplates)
    (hardwareId : String) :
    Except CommandError TopicParams :=
  if hardwareId.toList.any Topics.isReserved then
    .error (.extraction
      s!"Hardware id '{hardwareId}' cannot be used in a topic")
  else
    .ok ⟨Topics.expand t.command hardwareId,
      Topics.expand t.system hardwareId⟩

end TopicTemplates

end DeviceHub
