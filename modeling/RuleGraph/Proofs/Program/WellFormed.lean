import Mathlib
import RuleGraph.Graph.Ruleset

/-!
# Well-formed programs

A program is a collection of parsed files. What makes it well-formed is said without an order in
which files or rules are compiled: about imports, names, types of nodes and calls, and about the
graph in which every stop of a rule feeds the next.
-/
namespace RuleGraph

/-- A stop on the way through a rule: a node of the rule's own, with its type, or another rule. -/
inductive Stop
  | node (type : String)
  | call (rule : String)
  deriving DecidableEq

def Stop.isNode : Stop → Bool
  | .node _ => true
  | .call _ => false

def Link.stop : Link → Stop
  | .filter type _ _ => .node type
  | .call rule => .call rule

/-- The stops of a rule in order, its producer in front. -/
def RuleBody.stops : RuleBody → List Stop
  | .produced decl chain => .node decl.name :: chain.map Link.stop
  | .fragment first rest => (first :: rest).map Link.stop

def Rule.nodeCount (r : Rule) : Nat := r.body.stops.countP Stop.isNode

/-- A node of a program: the one that a rule declares at the stop of some number. -/
structure Place where
  rule : String
  stop : Nat
  deriving DecidableEq

inductive Side
  | entry
  | exit

/-- The number of the stop at which a rule begins or ends. -/
def Side.stop : Side → Rule → Nat
  | .entry, _ => 0
  | .exit, r => r.body.stops.length - 1

/-- The place at which messages enter or leave the stop of some number of a rule. A called rule is
entered where it begins and left where it ends. -/
inductive EndsAt (rules : List Rule) (side : Side) : Rule → Nat → Place → Prop
  | node {r : Rule} {i : Nat} {type : String} (mem : r ∈ rules)
      (stop : r.body.stops[i]? = some (.node type)) : EndsAt rules side r i ⟨r.name, i⟩
  | call {r callee : Rule} {i : Nat} {p : Place} (mem : r ∈ rules)
      (stop : r.body.stops[i]? = some (.call callee.name))
      (rest : EndsAt rules side callee (side.stop callee) p) : EndsAt rules side r i p

/-- Where a stop of a rule is left, messages go on to where the next one is entered. -/
inductive Feeds (rules : List Rule) : Place → Place → Prop
  | next {r : Rule} {i : Nat} {p q : Place} (leave : EndsAt rules .exit r i p)
      (enter : EndsAt rules .entry r (i + 1) q) : Feeds rules p q

/-- No way along the stops of rules comes back to where it began. -/
def CycleFree (rules : List Rule) : Prop := ∀ p, ¬ Relation.TransGen (Feeds rules) p p

/-- The types of all nodes that a rule declares are known, and accept the parameters. -/
structure RuleBody.Constructible (body : RuleBody) (registry : Registry) (config : Config) :
    Prop where
  producer : ∀ decl, body.producer? = some decl →
    ∃ factory program, registry.producer? decl.name = some factory ∧
      factory (config.nodeParams decl.name decl.params) = .ok program
  filters : ∀ type written negated, .filter type written negated ∈ body.chain →
    ∃ factory react, registry.filter? type = some factory ∧
      factory (config.nodeParams type written) = .ok react

namespace ParsedFiles

/-- Each file stands under its own path, and no path stands twice. -/
structure Keyed (files : ParsedFiles) : Prop where
  same : ∀ e ∈ files, e.1.same e.2.path = true
  distinct : files.Pairwise fun e e' => e.1.same e'.1 = false

def Imports (files : ParsedFiles) (f g : RuleFile) : Prop :=
  ∃ path ∈ f.imports, files.get? path = some g

/-- One file imports another, directly or not. -/
def DependsOn (files : ParsedFiles) : RuleFile → RuleFile → Prop :=
  Relation.TransGen files.Imports

def rules (files : ParsedFiles) : List Rule := files.values.flatMap RuleFile.rules

/-- How many nodes the rules of all files declare. -/
def nodeCount (files : ParsedFiles) : Nat := (files.rules.map Rule.nodeCount).sum

/-- What a file has to fulfil among others. -/
structure FileWellFormed (files : ParsedFiles) (registry : Registry) (config : Config)
    (f : RuleFile) : Prop where
  /-- All imports are there. -/
  imports : ∀ path ∈ f.imports, ∃ g, files.get? path = some g
  /-- The file does not import itself, directly or not. -/
  importCycleFree : ¬ files.DependsOn f f
  named : ∀ r ∈ f.rules, r.name ≠ ""
  constructible : ∀ r ∈ f.rules, r.body.Constructible registry config
  /-- A call is answered by a rule without a producer, which stands further up in the file or in a
  file that this one depends on. -/
  calls : ∀ before r after, f.rules = before ++ r :: after → ∀ name, .call name ∈ r.body.chain →
    ∃ callee, callee.name = name ∧ callee.body.producer? = none ∧
      (callee ∈ before ∨ ∃ g, files.DependsOn f g ∧ callee ∈ g.rules)

/-- What makes a program well-formed. -/
structure WellFormed (files : ParsedFiles) (registry : Registry) (config : Config) : Prop where
  each : ∀ f ∈ files.values, files.FileWellFormed registry config f
  distinct : (files.rules.map Rule.name).Nodup
  cycleFree : CycleFree files.rules

end ParsedFiles
end RuleGraph
