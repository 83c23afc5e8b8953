import Mathlib
import RuleGraph.Graph.Build

/-!
# Rules linked node by node

A chain can also be linked in one pass over its links, each node joined to the topic before it,
with the first and last node kept as they are met. Linked so, a rule would fail where its chain has
no node at all, or where a called rule without a producer begins with something other than a
filter. Neither ever happens, and what comes out is the rule that is built.
-/
namespace RuleGraph

/-- What linking node by node fails with. -/
inductive LinkError
  /-- A link cannot be built. -/
  | unbuilt (e : GraphError)
  | emptyChain (rule : String)
  | entryNotFilter (rule : String)

/-- What was linked so far. -/
structure Linked where
  nodes : List Node
  wires : List Wire
  first : Option Node
  last : Option Node

/-- A rule's own nodes, the nodes at which it begins and ends, and its wires. -/
structure LinkedRule where
  nodes : List Node
  first : Node
  last : Node
  wires : List Wire

def LinkedRule.ofFlow (flow : Flow) (wires : List Wire) : LinkedRule :=
  ⟨flow.nodes, flow.first, flow.last, wires⟩

namespace Linked

def empty : Linked := ⟨[], [], none, none⟩

/-- Join the entry of a link to the topic before it, if there is one. -/
def join (linked : Linked) (previous : Option Topic) (entry : FilterNode) (call : Option String)
    (last : Node) (own : List Node) : Linked :=
  ⟨linked.nodes ++ own, linked.wires ++ (previous.map fun topic => ⟨topic, entry, call⟩).toList,
    some (linked.first.getD (.filter entry)), some last⟩

end Linked

namespace Workshop

variable (w : Workshop) (rule : String)

def linkChain : List Link → Option Topic → Linked → Supply → Except LinkError Linked × Supply
  | [], _, linked, s => (.ok linked, s)
  | .filter type written negated :: rest, previous, linked, s =>
    match w.buildFilter rule type written negated s with
    | (.error e, s) => (.error (.unbuilt e), s)
    | (.ok node, s) =>
      linkChain rest (some node.topic)
        (linked.join previous node none (.filter node) [.filter node]) s
  | .call name :: rest, previous, linked, s =>
    match w.callee? name with
    | none => (.error (.unbuilt (.unresolvedCall name)), s)
    | some callee =>
      if callee.hasProducer then (.error (.unbuilt (.producerInCall name)), s)
      else
        match callee.first with
        | .producer _ => (.error (.entryNotFilter name), s)
        | .filter entry =>
          linkChain rest (some callee.last.topic)
            (linked.join previous entry (some name) callee.last []) s

def linkRule (rule : Rule) (s : Supply) : Except LinkError LinkedRule × Supply :=
  match rule.body with
  | .produced decl links =>
    match w.buildProducer rule.name decl s with
    | (.error e, s) => (.error (.unbuilt e), s)
    | (.ok producer, s) =>
      match w.linkChain rule.name links (some producer.topic) .empty s with
      | (.error e, s) => (.error e, s)
      | (.ok linked, s) =>
        (.ok ⟨.producer producer :: linked.nodes, .producer producer,
          linked.last.getD (.producer producer), linked.wires⟩, s)
  | .fragment first rest =>
    match w.linkChain rule.name (first :: rest) none .empty s with
    | (.error e, s) => (.error e, s)
    | (.ok linked, s) =>
      match linked.first, linked.last with
      | some first, some last => (.ok ⟨linked.nodes, first, last, linked.wires⟩, s)
      | _, _ => (.error (.emptyChain rule.name), s)

end Workshop

namespace Linked

/-- Join the sections of a chain one after the other. -/
def joinAll (linked : Linked) (previous : Option Topic) : List Section → Linked
  | [] => linked
  | s :: rest =>
    (linked.join previous s.first s.call? (.filter s.last) (s.own?.map .filter).toList).joinAll
      (some s.last.topic) rest

/-- What joining sections behind a node leads to. -/
theorem joinAll_eq (linked : Linked) (topic : Topic) (sections : List Section) :
    linked.joinAll (some topic) sections =
      ⟨linked.nodes ++ (sections.filterMap Section.own?).map .filter,
        linked.wires ++ Section.wires topic sections,
        (linked.first.or (sections.head?.map fun s => .filter s.first)),
        ((sections.getLast?.map fun s => Node.filter s.last).or linked.last)⟩ := by
  induction sections generalizing linked topic with
  | nil => simp [joinAll, Section.wires]
  | cons s rest ih =>
    rw [joinAll, ih]
    cases hown : s.own? <;> cases hfirst : linked.first <;> cases hlast : rest.getLast? <;>
      simp [join, Section.wires, List.getLast?_cons, hown, hfirst, hlast]

/-- Sections joined from the beginning make their chain. -/
theorem joinAll_empty_cons (previous : Option Topic) (head : Section) (rest : List Section) :
    empty.joinAll previous (head :: rest) =
      ⟨(head.chain rest).own.map .filter,
        (previous.map fun topic => ⟨topic, head.first, head.call?⟩).toList ++
          Section.wires head.last.topic rest,
        some (.filter (head.chain rest).first), some (.filter (head.chain rest).last)⟩ := by
  have hlast : (head.chain rest).last = (rest.getLast?.getD head).last := by
    have hcons : (head :: rest).getLast (by simp) = rest.getLast?.getD head := by
      rw [← Option.some_inj, ← List.getLast?_eq_some_getLast, List.getLast?_cons]
    exact congrArg Section.last hcons
  rw [joinAll, joinAll_eq, hlast]
  cases hown : head.own? <;> cases hrest : rest.getLast? <;>
    simp [join, empty, Section.chain, hown]

end Linked

namespace Workshop

variable {w : Workshop} {rule : String}

/-- Linking node by node joins the sections that are built. -/
theorem linkChain_eq (links : List Link) (previous : Option Topic) (linked : Linked)
    (s : Supply) : w.linkChain rule links previous linked s =
      ((w.buildLinks rule links s).1.map (linked.joinAll previous) |>.mapError .unbuilt,
        (w.buildLinks rule links s).2) := by
  induction links generalizing previous linked s with
  | nil => rfl
  | cons link rest ih =>
    cases link with
    | filter type written negated =>
      rw [linkChain, buildLinks, buildLink]
      cases w.buildFilter rule type written negated s with
      | mk outcome s₁ =>
        cases outcome with
        | error e => rfl
        | ok node =>
          simp only [ih]
          cases w.buildLinks rule rest s₁ with
          | mk outcome s₂ => cases outcome <;> rfl
    | call name =>
      rw [linkChain, buildLinks, buildLink, callSection]
      cases w.callee? name with
      | none => rfl
      | some callee =>
        cases hflow : callee.flow with
        | produced producer chain =>
          simp [hflow, CompiledRule.hasProducer, CompiledRule.producer?, Flow.producer?,
            Except.map, Except.mapError]
        | fragment chain =>
          simp only [hflow, CompiledRule.hasProducer, CompiledRule.producer?, Flow.producer?,
            Option.isSome_none, Bool.false_eq_true, if_false, CompiledRule.first,
            CompiledRule.last, Flow.first, Flow.last, ih]
          cases w.buildLinks rule rest s with
          | mk outcome s₁ => cases outcome <;> rfl

/-- Linking node by node comes to what building comes to, and to no other error. -/
theorem linkRule_eq (w : Workshop) (rule : Rule) (s : Supply) :
    w.linkRule rule s =
      (((w.buildRule rule s).1.map fun built => LinkedRule.ofFlow built.1 built.2).mapError
        .unbuilt, (w.buildRule rule s).2) := by
  obtain ⟨name, pos, body⟩ := rule
  cases body with
  | produced decl links =>
    simp only [linkRule, buildRule, linkChain_eq]
    cases w.buildProducer name decl s with
    | mk outcome s₁ =>
      cases outcome with
      | error e => rfl
      | ok producer =>
        cases hlinks : w.buildLinks name links s₁ with
        | mk outcome s₂ =>
          simp only [hlinks]
          cases outcome with
          | error e => rfl
          | ok sections =>
            cases sections with
            | nil => rfl
            | cons head rest =>
              simp only [Except.map, Except.mapError, Linked.joinAll_empty_cons]
              rfl
  | fragment first rest =>
    simp only [linkRule, buildRule, linkChain_eq, buildLinks]
    cases w.buildLink name first s with
    | mk outcome s₁ =>
      cases outcome with
      | error e => rfl
      | ok head =>
        cases hlinks : w.buildLinks name rest s₁ with
        | mk outcome s₂ =>
          simp only [hlinks]
          cases outcome with
          | error e => rfl
          | ok sections =>
            simp only [Except.map, Except.mapError, Linked.joinAll_empty_cons]
            rfl

end Workshop
end RuleGraph
