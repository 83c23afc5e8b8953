import RuleGraph.Graph.Node

/-!
# Reachability

Edges lead from a topic to the topics of the nodes that are subscribed to it. A list of wires may
be added to a graph when none of them closes a cycle.
-/
namespace RuleGraph

/-- From a topic to the topic of a node that is subscribed to it. -/
structure Edge where
  source : Topic
  target : Topic
  deriving DecidableEq, Repr

/-- A subscription to be made. -/
structure Wire where
  topic : Topic
  target : FilterNode
  /-- The called rule that the wire leads into. -/
  call : Option String

def Wire.edge (w : Wire) : Edge := ⟨w.topic, w.target.topic⟩

/-- The topics that edges lead to from one topic. -/
def successors (edges : List Edge) (topic : Topic) : List Topic :=
  (edges.filter fun e => e.source = topic).map Edge.target

/-- The edges that do not begin at a topic. -/
def edgesElsewhere (edges : List Edge) (topic : Topic) : List Edge :=
  edges.filter fun e => e.source ≠ topic

theorem length_edgesElsewhere_add (edges : List Edge) (topic : Topic) :
    (edgesElsewhere edges topic).length + (successors edges topic).length = edges.length := by
  induction edges with
  | nil => rfl
  | cons e rest ih =>
    simp only [edgesElsewhere, successors, List.length_map, ne_eq, decide_not] at ih ⊢
    by_cases h : e.source = topic <;> simp [h] <;> omega

/-- Whether one of the topics that are to be visited leads to `goal`, or is it. The edges of a
topic that was visited are not followed again. -/
def reaches (goal : Topic) (edges : List Edge) (pending : List Topic) : Bool :=
  match pending with
  | [] => false
  | topic :: rest =>
    if topic = goal then true
    else reaches goal (edgesElsewhere edges topic) (successors edges topic ++ rest)
termination_by edges.length + pending.length
decreasing_by
  have h := length_edgesElsewhere_add edges topic
  simp only [List.length_append, List.length_cons]
  omega

/-- Whether an edge would lead to a topic from which its source is reached already. -/
def closesCycle (edges : List Edge) (e : Edge) : Bool := reaches e.source edges [e.target]

/-- The first wire that closes a cycle over the edges and the wires in front of it. -/
def firstCycle? (edges : List Edge) : List Wire → Option Wire
  | [] => none
  | w :: rest => if closesCycle edges w.edge then some w else firstCycle? (w.edge :: edges) rest

/-- A walk along edges, perhaps of no edge at all. -/
inductive Leads (edges : List Edge) : Topic → Topic → Prop
  | refl {t : Topic} : Leads edges t t
  | step {s t u : Topic} : ⟨s, t⟩ ∈ edges → Leads edges t u → Leads edges s u

/-- No walk comes back to where it took its first edge. -/
def Acyclic (edges : List Edge) : Prop := ∀ e ∈ edges, ¬ Leads edges e.target e.source

end RuleGraph
