/-!
# Numbers and topics of nodes

Every node gets a number, and publishes on a topic made of its type and its number.
-/
namespace RuleGraph

/-- The number of a node. Numbers are words of 32 bits. -/
structure NodeId where
  number : UInt32
  deriving DecidableEq, Repr

namespace NodeId

def text (id : NodeId) : String := toString id.number.toNat

def describe (id : NodeId) : String := s!"NodeId({id.text})"

def next (id : NodeId) : NodeId := ⟨id.number + 1⟩

end NodeId

/-- The address under which a node publishes. -/
structure Topic where
  text : String
  deriving DecidableEq, Repr, Inhabited

namespace Topic

def ofNode (type : String) (id : NodeId) : Topic := ⟨type ++ ":" ++ id.text⟩

def describe (t : Topic) : String := s!"Topic({t.text})"

end Topic
end RuleGraph
