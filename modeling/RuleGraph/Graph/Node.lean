import RuleGraph.Bus
import RuleGraph.Node.Behaviour

/-!
# Nodes of a graph

A node is a producer or a filter with its number and the rule that owns it. It stamps the messages
that it publishes on its topic.
-/
namespace RuleGraph

/-- What was made for a filter link. -/
structure FilterNode where
  id : NodeId
  type : String
  rule : String
  params : Params
  negated : Bool
  react : Filter

structure ProducerNode where
  id : NodeId
  type : String
  rule : String
  params : Params
  program : Producer

namespace FilterNode

def topic (n : FilterNode) : Topic := .ofNode n.type n.id

def stamp (n : FilterNode) (m : Message) : Message := m.stamp [(Message.ruleKey, n.rule)]

/-- What the filter lets through of its own copy of a message: the copy if the filter matched,
or if it did not and is negated. -/
def passed (n : FilterNode) (matched : Bool) (copy : Message) : List Message :=
  if n.negated != matched then [copy] else []

/-- Give a message to the filter. What it emits is published in any case; a filter that fails or
panics drops the message. -/
def pipe (n : FilterNode) (m : Message) : Handling :=
  let reaction := n.react m
  let publications (ms : List Message) : List (Topic × Message) :=
    ms.map fun m => (n.topic, n.stamp m)
  match reaction.verdict with
  | .decided matched copy =>
    ⟨publications (reaction.emitted ++ n.passed matched copy), reaction.events, false⟩
  | .failed e =>
    ⟨publications reaction.emitted, reaction.events ++ [.filterFailed n.topic n.rule e], false⟩
  | .panicked => ⟨publications reaction.emitted, reaction.events, true⟩

end FilterNode

namespace ProducerNode

def topic (n : ProducerNode) : Topic := .ofNode n.type n.id

def stamp (n : ProducerNode) (m : Message) : Message :=
  m.stamp [(Message.ruleKey, n.rule), (Message.sourceRuleKey, n.rule),
    (Message.producerKey, n.type), (Message.producerTopicKey, n.topic.text)]

end ProducerNode

inductive Node
  | producer (node : ProducerNode)
  | filter (node : FilterNode)

namespace Node

def id : Node → NodeId
  | .producer n => n.id
  | .filter n => n.id

def type : Node → String
  | .producer n => n.type
  | .filter n => n.type

def rule : Node → String
  | .producer n => n.rule
  | .filter n => n.rule

def topic : Node → Topic
  | .producer n => n.topic
  | .filter n => n.topic

def describe : Node → String
  | .producer n => s!"Producer({n.topic.text})"
  | .filter n => if n.negated then s!"Filter(!{n.topic.text})" else s!"Filter({n.topic.text})"

/-- Put a message in at a node: a filter judges it, a producer publishes it as its own. -/
def feed (m : Message) : Node → Handling
  | .producer n => ⟨[(n.topic, n.stamp m)], [], false⟩
  | .filter n => n.pipe m

theorem topic_eq (n : Node) : n.topic = .ofNode n.type n.id := by cases n <;> rfl

end Node
end RuleGraph
