import RuleGraph.Json.Parser
import RuleGraph.Json.Printer

/-!
# Messages

A message is a payload with named remarks about it. Nodes stamp the messages that they publish.
-/
namespace RuleGraph

structure Message where
  payload : Json
  metadata : Table Json
  deriving Repr, Inhabited

namespace Message

/-- The remark that names the rule whose node published the message last. -/
def ruleKey : String := "rule"

/-- The remark that names the type of the producer a message comes from. -/
def producerKey : String := "producer"

/-- The remark that names the topic of the producer a message comes from. -/
def producerTopicKey : String := "producer_topic"

/-- The remark that names the rule which owns the producer. -/
def sourceRuleKey : String := "source_rule"

def ofPayload (payload : Json) : Message := ⟨payload, []⟩

/-- The payload as text: a string as it is, nothing for null, and JSON for the rest. -/
def text (m : Message) : String :=
  match m.payload with
  | .string s => s
  | .null => ""
  | payload => payload.render

def get? (m : Message) (key : String) : Option Json := Table.get? m.metadata key

def text? (m : Message) (key : String) : Option String := (m.get? key).bind Json.string?

def set (m : Message) (key : String) (value : Json) : Message :=
  { m with metadata := Table.insert key value m.metadata }

def withPayload (m : Message) (payload : Json) : Message := { m with payload := payload }

/-- Set several remarks, in order. -/
def stamp (m : Message) (stamps : List (String × String)) : Message :=
  stamps.foldl (fun m s => m.set s.1 (.string s.2)) m

def same (m n : Message) : Bool :=
  m.payload.same n.payload && Json.sameMembers m.metadata n.metadata

/-- The serialized form: the payload in front of the metadata. -/
def render (m : Message) : String :=
  "\x7b\"payload\":" ++ m.payload.render ++ ",\"metadata\":" ++ (Json.object m.metadata).render ++
    "\x7d"

/-- Metadata has to be an object. -/
def metadata? : Json → Option (Table Json)
  | .object members => some members
  | _ => none

/-- The members named `key`, in order. -/
def valuesOf (key : String) (members : List (String × Json)) : List Json :=
  (members.filter fun m => m.1 = key).map Prod.snd

/-- A message from its serialized form: an object with a payload and perhaps metadata, neither of
them twice, or an array of the two. Other members of the object count for nothing. -/
def parse? (text : List Char) : Option Message :=
  match Json.objectMembers? ["payload", "metadata"].contains text with
  | some members =>
    match valuesOf "payload" members, valuesOf "metadata" members with
    | [payload], [] => some ⟨payload, []⟩
    | [payload], [metadata] => (metadata? metadata).map fun t => ⟨payload, t⟩
    | _, _ => none
  | none =>
    match Json.parse? text with
    | some (.array [payload]) => some ⟨payload, []⟩
    | some (.array [payload, metadata]) => (metadata? metadata).map fun t => ⟨payload, t⟩
    | _ => none

theorem get?_set (m : Message) (key other : String) (value : Json) :
    (m.set key value).get? other = if other = key then some value else m.get? other :=
  Table.get?_insert m.metadata key other value

end Message
end RuleGraph
