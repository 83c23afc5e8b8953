import RuleGraph.Graph.Reach

/-!
# Compiled rules

A compiled rule is a chain of filters, perhaps behind a producer. Its chain may enter and leave
through filters of other rules, which it calls.
-/
namespace RuleGraph

/-- The filters that a rule made for its own links, and the ones at which messages enter and leave
its chain. -/
structure Chain where
  own : List FilterNode
  first : FilterNode
  last : FilterNode

inductive Flow
  | fragment (chain : Chain)
  | produced (producer : ProducerNode) (chain : Option Chain)

structure CompiledRule where
  name : String
  file : Path
  flow : Flow

namespace Flow

def nodes : Flow → List Node
  | .fragment chain => chain.own.map .filter
  | .produced producer chain =>
    .producer producer :: ((chain.map Chain.own).getD []).map .filter

def first : Flow → Node
  | .fragment chain => .filter chain.first
  | .produced producer _ => .producer producer

def last : Flow → Node
  | .fragment chain => .filter chain.last
  | .produced producer none => .producer producer
  | .produced _ (some chain) => .filter chain.last

def producer? : Flow → Option ProducerNode
  | .fragment _ => none
  | .produced producer _ => some producer

end Flow

namespace CompiledRule

/-- The nodes that the rule made itself, in the order of its links. -/
def nodes (r : CompiledRule) : List Node := r.flow.nodes

def first (r : CompiledRule) : Node := r.flow.first

def last (r : CompiledRule) : Node := r.flow.last

def producer? (r : CompiledRule) : Option ProducerNode := r.flow.producer?

def hasProducer (r : CompiledRule) : Bool := r.producer?.isSome

end CompiledRule

/-- A link of a chain when it is built: a filter of its own, or the chain of a called rule. -/
inductive Section
  | filter (node : FilterNode)
  | call (rule : String) (first last : FilterNode)

namespace Section

def first : Section → FilterNode
  | .filter n => n
  | .call _ first _ => first

def last : Section → FilterNode
  | .filter n => n
  | .call _ _ last => last

def own? : Section → Option FilterNode
  | .filter n => some n
  | .call .. => none

def call? : Section → Option String
  | .filter _ => none
  | .call rule _ _ => some rule

/-- The wires that join sections with each other and the first of them with a topic. -/
def wires (topic : Topic) : List Section → List Wire
  | [] => []
  | s :: rest => ⟨topic, s.first, s.call?⟩ :: wires s.last.topic rest

/-- The chain that sections make. -/
def chain (s : Section) (rest : List Section) : Chain :=
  ⟨(s :: rest).filterMap own?, s.first, ((s :: rest).getLast (by simp)).last⟩

end Section
end RuleGraph
