import RuleGraph.Config
import RuleGraph.Graph.CompiledRule
import RuleGraph.Graph.GraphError
import RuleGraph.Node.Registry

/-!
# Building rules

A rule is built link by link. Nothing is subscribed on the way: what comes out are nodes and the
wires between them. Numbers taken for nodes stay taken when a later link fails.
-/
namespace RuleGraph

/-- The next number for a node, and what was told of the nodes made so far. -/
structure Supply where
  next : NodeId
  journal : List Event

/-- Take a number for a node of a type that was made from parameters. -/
def Supply.take (s : Supply) (type : String) (params : Params) : Supply :=
  ⟨s.next.next, s.journal ++ [.constructed type params]⟩

/-- What a rule is built from: known types, a configuration, and the chains of rules that may be
called. -/
structure Workshop where
  registry : Registry
  config : Config
  callee? : String → Option CompiledRule

namespace Workshop

/-- Each step gives its result and what is left of the supply. -/
abbrev Built (α : Type) := Except GraphError α × Supply

def buildFilter (w : Workshop) (rule type : String) (written : List Param) (negated : Bool)
    (s : Supply) : Built FilterNode :=
  match w.registry.filter? type with
  | none => (.error (.unknownFilter type), s)
  | some factory =>
    let params := w.config.nodeParams type written
    match factory params with
    | .error e => (.error (.construction type e), s)
    | .ok react => (.ok ⟨s.next, type, rule, params, negated, react⟩, s.take type params)

def buildProducer (w : Workshop) (rule : String) (decl : ProducerDecl) (s : Supply) :
    Built ProducerNode :=
  match w.registry.producer? decl.name with
  | none => (.error (.unknownProducer decl.name), s)
  | some factory =>
    let params := w.config.nodeParams decl.name decl.params
    match factory params with
    | .error e => (.error (.construction decl.name e), s)
    | .ok program => (.ok ⟨s.next, decl.name, rule, params, program⟩, s.take decl.name params)

/-- The section of a called rule, which must be a fragment. -/
def callSection (w : Workshop) (name : String) : Except GraphError Section :=
  match w.callee? name with
  | none => .error (.unresolvedCall name)
  | some callee =>
    match callee.flow with
    | .produced .. => .error (.producerInCall name)
    | .fragment chain => .ok (.call name chain.first chain.last)

def buildLink (w : Workshop) (rule : String) (link : Link) (s : Supply) : Built Section :=
  match link with
  | .filter type written negated =>
    match w.buildFilter rule type written negated s with
    | (.error e, s) => (.error e, s)
    | (.ok node, s) => (.ok (.filter node), s)
  | .call name => (w.callSection name, s)

def buildLinks (w : Workshop) (rule : String) : List Link → Supply → Built (List Section)
  | [], s => (.ok [], s)
  | link :: links, s =>
    match w.buildLink rule link s with
    | (.error e, s) => (.error e, s)
    | (.ok section_, s) =>
      match buildLinks w rule links s with
      | (.error e, s) => (.error e, s)
      | (.ok sections, s) => (.ok (section_ :: sections), s)

/-- The nodes of a rule, and the wires that join them. -/
def buildRule (w : Workshop) (rule : Rule) (s : Supply) : Built (Flow × List Wire) :=
  match rule.body with
  | .fragment first rest =>
    match w.buildLink rule.name first s with
    | (.error e, s) => (.error e, s)
    | (.ok head, s) =>
      match w.buildLinks rule.name rest s with
      | (.error e, s) => (.error e, s)
      | (.ok sections, s) =>
        (.ok (.fragment (head.chain sections), Section.wires head.last.topic sections), s)
  | .produced decl links =>
    match w.buildProducer rule.name decl s with
    | (.error e, s) => (.error e, s)
    | (.ok producer, s) =>
      match w.buildLinks rule.name links s with
      | (.error e, s) => (.error e, s)
      | (.ok sections, s) =>
        let chain :=
          match sections with
          | [] => none
          | head :: rest => some (head.chain rest)
        (.ok (.produced producer chain, Section.wires producer.topic sections), s)

end Workshop
end RuleGraph
