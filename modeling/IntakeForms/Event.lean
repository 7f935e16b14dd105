import IntakeForms.Json.Writer
import IntakeForms.Log
import IntakeForms.Time.Timestamp

/-!
Events: what the service announces to others, and the publisher that carries them.
A publisher keeps every message it was given, also those it fails to deliver; a
failure is noted and goes no further.
-/

namespace IntakeForms

inductive Event
  | published (intakeId slug : String) (moment : Timestamp)
  | received (intakeId submissionId : String)
deriving DecidableEq, Repr

namespace Event

def topic : Event → String
  | .published .. => "intake-published"
  | .received .. => "submission-received"

def kind : Event → String
  | .published .. => "intake_published"
  | .received .. => "submission_received"

def intakeId : Event → String
  | .published i _ _ => i
  | .received i _ => i

def facts (write : Timestamp → String) : Event → List (String × Value)
  | .published i slug moment =>
    [("intake_id", .text i), ("slug", .text slug), ("published_at", .text (write moment))]
  | .received i s => [("intake_id", .text i), ("submission_id", .text s)]

def data (e : Event) : String := Json.text .line (.object (e.facts (·.isoPlain 'T')))

def attributes (e : Event) : List (String × String) :=
  [("intake_id", e.intakeId), ("event_type", e.kind)]

end Event

structure Message where
  topic : String
  data : String
  attributes : List (String × String)
deriving DecidableEq, Repr

inductive Delivery
  | absent
  | working
  | failing (reason : String)
deriving DecidableEq, Repr

structure Publisher where
  project : String
  delivery : Delivery
  sent : List Message := []
deriving DecidableEq, Repr

namespace Publisher

def topicPath (p : Publisher) (topic : String) : String :=
  "projects/" ++ p.project ++ "/topics/" ++ topic

def message (p : Publisher) (e : Event) : Message := ⟨p.topicPath e.topic, e.data, e.attributes⟩

def attributeValue (e : Event) : Value :=
  .object (e.attributes.map fun (k, v) => (k, .text v))

def delivered (e : Event) (count : Nat) : Log.Entry :=
  ⟨.info, .events, "Published message to Pub/Sub",
    [("topic_id", .text e.topic), ("message_id", .text ("msg-" ++ toString count)),
      ("attributes", attributeValue e)]⟩

def undelivered (e : Event) (reason : String) : Log.Entry :=
  ⟨.warning, .service, "Event publishing failed (non-fatal)",
    ("error", .text reason) :: e.facts (·.isoPlain ' ')⟩

def announce (p : Publisher) (e : Event) : Publisher × List Log.Entry :=
  let next := { p with sent := p.sent ++ [p.message e] }
  match p.delivery with
  | .absent => (p, [])
  | .working => (next, [delivered e next.sent.length])
  | .failing reason => (next, [undelivered e reason])

def drain (p : Publisher) : List Message × Publisher := (p.sent, { p with sent := [] })

end Publisher

end IntakeForms
