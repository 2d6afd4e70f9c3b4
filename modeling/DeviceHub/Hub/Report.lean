import DeviceHub.Hub.Calls

/-
  What callers of a hub get to see.

  Key definitions include:
    * `Answer.fields`
    * `BatchOperation.fields`
    * `Outbound.toJson`
-/

namespace DeviceHub

/- A payload's report, and whether it is complete. -/
def PayloadReport.fields
    (r : PayloadReport) : List (String × Json) :=
  [("result", r.toJson), ("complete", .bool r.isComplete)]

/- An operation, its status, and whether it is finished. -/
def BatchOperation.fields
    (o : BatchOperation) : List (String × Json) :=
  [("result", o.toJson), ("status", o.status.toJson),
    ("finished", .bool o.isFinished)]

/- The fields of an answer. -/
def Answer.fields : Answer → List (String × Json)
  | payload (.ok r) => r.fields
  | payload (.error e) => e.problem.fields
  | delivery (.ok r) => [("result", r.toJson)]
  | delivery (.error e) => e.fields
  | batch (.ok o) => o.fields
  | batch (.error e) => e.problem.fields

/- A text, or bytes; bytes of a JSON record are its text. -/
def Encoded.toJson : Encoded → Json
  | line s => .text s
  | bytes bs =>
      match bs.head?, Json.utf8? bs with
      | some 123, some s => .text s
      | _, _ => .record [("hex", .text (Text.hexText bs))]

/- The JSON form of a message. -/
def Outbound.toJson
    (m : Outbound) : Json :=
  .record
    [("encoded", m.encoded.toJson),
      ("params", .ofOption TopicParams.toJson m.params)]

/- The ids of a page of devices, and the size of them all. -/
def PagedResult.outline
    (p : PagedResult Device) : Json :=
  .record
    [("numResults", .nat p.numResults),
      ("ids", .texts (p.results.map (·.hardwareId)))]

end DeviceHub
