import RuleGraph.Proofs.Graph.Nodes
import RuleGraph.Proofs.Program.WellFormed

/-!
# Renaming nodes

What is built for a rule hangs on the numbers that are left only by the numbers of its nodes. Two
rulesets may build one rule, with calls that lead to rules which differ by a renaming of numbers:
then what they build differs by this renaming, if it takes the new numbers to each other.
-/
namespace RuleGraph

variable {ρ : NodeId → NodeId}

/-! ### Renamed graphs -/

def FilterNode.rename (ρ : NodeId → NodeId) (n : FilterNode) : FilterNode := { n with id := ρ n.id }

def ProducerNode.rename (ρ : NodeId → NodeId) (n : ProducerNode) : ProducerNode :=
  { n with id := ρ n.id }

def Node.rename (ρ : NodeId → NodeId) : Node → Node
  | .producer n => .producer (n.rename ρ)
  | .filter n => .filter (n.rename ρ)

def Chain.rename (ρ : NodeId → NodeId) (c : Chain) : Chain :=
  ⟨c.own.map (FilterNode.rename ρ), c.first.rename ρ, c.last.rename ρ⟩

def Flow.rename (ρ : NodeId → NodeId) : Flow → Flow
  | .fragment chain => .fragment (chain.rename ρ)
  | .produced producer chain => .produced (producer.rename ρ) (chain.map (Chain.rename ρ))

/-- The name and the file stay, and so do the types and parameters of all nodes, and where they
stand. -/
def CompiledRule.rename (ρ : NodeId → NodeId) (r : CompiledRule) : CompiledRule :=
  { r with flow := r.flow.rename ρ }

/-- A filter that is subscribed to what a node publishes. -/
structure Tie where
  source : Node
  target : FilterNode

def Tie.subscription (t : Tie) : Topic × FilterNode := (t.source.topic, t.target)

def Tie.rename (ρ : NodeId → NodeId) (t : Tie) : Tie := ⟨t.source.rename ρ, t.target.rename ρ⟩

def Wire.subscription (w : Wire) : Topic × FilterNode := (w.topic, w.target)

namespace Section

def rename (ρ : NodeId → NodeId) : Section → Section
  | .filter n => .filter (n.rename ρ)
  | .call rule first last => .call rule (first.rename ρ) (last.rename ρ)

/-- The ties of sections with each other, and of the first of them with a node. -/
def ties (source : Node) : List Section → List Tie
  | [] => []
  | s :: rest => ⟨source, s.first⟩ :: ties (.filter s.last) rest

theorem first_rename (s : Section) : (s.rename ρ).first = s.first.rename ρ := by cases s <;> rfl

theorem last_rename (s : Section) : (s.rename ρ).last = s.last.rename ρ := by cases s <;> rfl

theorem map_subscription_wires (source : Node) (sections : List Section) :
    (wires source.topic sections).map Wire.subscription =
      (ties source sections).map Tie.subscription := by
  induction sections generalizing source with
  | nil => rfl
  | cons s rest ih => exact congrArg _ (ih (.filter s.last))

theorem ties_rename (source : Node) (sections : List Section) :
    ties (source.rename ρ) (sections.map (rename ρ)) =
      (ties source sections).map (Tie.rename ρ) := by
  induction sections generalizing source with
  | nil => rfl
  | cons s rest ih =>
    have hrest := ih (.filter s.last)
    rw [List.map_cons, ties, ties, List.map_cons, ← hrest, first_rename, last_rename]
    rfl

theorem map_subscription_wires_rename (source : Node) (sections : List Section) :
    (wires (source.rename ρ).topic (sections.map (rename ρ))).map Wire.subscription =
      (ties source sections).map fun t => (t.rename ρ).subscription := by
  rw [map_subscription_wires, ties_rename, List.map_map]
  rfl

theorem owned_rename (sections : List Section) :
    owned (sections.map (rename ρ)) = (owned sections).map (FilterNode.rename ρ) := by
  induction sections with
  | nil => rfl
  | cons s rest ih =>
    cases s with
    | filter n => exact congrArg _ ih
    | call rule first last => exact ih

theorem chain_rename (s : Section) (rest : List Section) :
    (s.rename ρ).chain (rest.map (rename ρ)) = (s.chain rest).rename ρ := by
  have hown := owned_rename (ρ := ρ) (s :: rest)
  have hlast : ((s :: rest).map (rename ρ)).getLast (by simp) =
      ((s :: rest).getLast (by simp)).rename ρ := List.getLast_map ..
  simp only [List.map_cons] at hown hlast
  simp only [chain, Chain.rename, ← owned.eq_1, hown, hlast, first_rename, last_rename]

theorem chain?_rename (sections : List Section) :
    chain? (sections.map (rename ρ)) = (chain? sections).map (Chain.rename ρ) := by
  cases sections with
  | nil => rfl
  | cons s rest => exact congrArg some (chain_rename s rest)

end Section

namespace NodeId

theorem finite : Finite NodeId :=
  Finite.of_injective NodeId.number fun a b h => by
    obtain ⟨a⟩ := a
    obtain ⟨b⟩ := b
    exact congrArg _ h

/-- Two lists of as many different numbers are renamings of each other. -/
theorem exists_renaming {as bs : List NodeId} (ha : as.Nodup) (hb : bs.Nodup)
    (hlength : as.length = bs.length) : ∃ ρ : NodeId ≃ NodeId, as.map ρ = bs := by
  have : Finite NodeId := finite
  have : Fintype NodeId := Fintype.ofFinite NodeId
  let e : { id // id ∈ as } ≃ { id // id ∈ bs } :=
    (ha.getEquiv as).symm.trans ((finCongr hlength).trans (hb.getEquiv bs))
  refine ⟨e.extendSubtype, List.ext_getElem (by simp [hlength]) fun i hi hi' => ?_⟩
  have hi : i < as.length := by simpa using hi
  rw [List.getElem_map, e.extendSubtype_apply_of_mem _ (List.getElem_mem hi)]
  have hindex : (ha.getEquiv as).symm ⟨as[i], List.getElem_mem hi⟩ = ⟨i, hi⟩ := by
    rw [Equiv.symm_apply_eq]
    rfl
  simp only [e, Equiv.trans_apply, hindex]
  rfl

end NodeId

/-! ### Rules that are built twice -/

namespace Workshop

variable {w w' : Workshop} {rule : String}

/-- A rule makes one node for each filter among its links. -/
theorem Made.length_owned {s t : Supply} {links : List Link} {sections : List Section}
    (h : Made w rule s links sections t) :
    (Section.owned sections).length = (links.map Link.stop).countP Stop.isNode := by
  induction h with
  | nil => rfl
  | filter _ _ _ ih =>
    rw [List.map_cons, Link.stop, List.countP_cons_of_pos rfl, ← ih]
    rfl
  | call _ _ _ ih =>
    rw [List.map_cons, Link.stop, List.countP_cons_of_neg Bool.false_ne_true, ← ih]
    rfl

theorem MadeRule.length_nodes {rule : Rule} {s t : Supply} {flow : Flow} {wires : List Wire}
    (h : MadeRule w rule s flow wires t) : flow.nodes.length = rule.nodeCount := by
  cases h with
  | fragment body links =>
    rw [nodes_fragment, List.length_map, links.length_owned, Rule.nodeCount, body, RuleBody.stops]
  | produced body _ _ links =>
    rw [nodes_produced, List.length_cons, List.length_map, links.length_owned, Rule.nodeCount, body,
      RuleBody.stops, List.countP_cons_of_pos rfl]

section Renamed

variable (hregistry : w'.registry = w.registry) (hconfig : w'.config = w.config)
  (hcallee : ∀ name c c', w.callee? name = some c → w'.callee? name = some c' →
    c'.flow = c.flow.rename ρ)
include hregistry hconfig hcallee

theorem Made.renamed {s t s' t' : Supply} {links : List Link} {sections sections' : List Section}
    (h : Made w rule s links sections t) (h' : Made w' rule s' links sections' t')
    (hids : (Section.owned sections').map FilterNode.id =
      (Section.owned sections).map fun n => ρ n.id) :
    sections' = sections.map (Section.rename ρ) := by
  induction h generalizing s' sections' with
  | nil =>
    cases h'
    rfl
  | filter known accepted _ ih =>
    cases h' with
    | filter known' accepted' rest' =>
      simp only [Section.owned_filter, List.map_cons, List.cons.injEq] at hids
      obtain ⟨hid, hids⟩ := hids
      rw [hregistry, known, Option.some.injEq] at known'
      rw [← known', hconfig, accepted, Except.ok.injEq] at accepted'
      rw [ih rest' hids, List.map_cons, hid, hconfig, ← accepted']
      rfl
  | call visible fragment _ ih =>
    cases h' with
    | call visible' fragment' rest' =>
      have hflow := hcallee _ _ _ visible visible'
      rw [fragment, fragment', Flow.rename, Flow.fragment.injEq] at hflow
      rw [ih rest' hids, List.map_cons, hflow]
      rfl

/-- What is built for a rule is renamed, and so are the ties that its wires make. -/
theorem MadeRule.renamed {rule : Rule} {s t s' t' : Supply} {flow flow' : Flow}
    {wires wires' : List Wire} (h : MadeRule w rule s flow wires t)
    (h' : MadeRule w' rule s' flow' wires' t')
    (hids : flow'.nodes.map Node.id = flow.nodes.map fun n => ρ n.id) :
    flow' = flow.rename ρ ∧ ∃ ties : List Tie,
      wires.map Wire.subscription = ties.map Tie.subscription ∧
      wires'.map Wire.subscription = ties.map fun t => (t.rename ρ).subscription := by
  cases h with
  | @fragment first rest head sections _ body links =>
    cases h' with
    | produced body' => simp [body] at body'
    | @fragment first' rest' head' sections' _ body' links' =>
      rw [body, RuleBody.fragment.injEq] at body'
      obtain ⟨rfl, rfl⟩ := body'
      rw [nodes_fragment, nodes_fragment, List.map_map, List.map_map] at hids
      have hsections := links.renamed hregistry hconfig hcallee links' hids
      rw [List.map_cons, List.cons.injEq] at hsections
      obtain ⟨rfl, rfl⟩ := hsections
      refine ⟨?_, Section.ties (.filter head.last) sections,
        Section.map_subscription_wires (.filter head.last) sections, ?_⟩
      · rw [Section.chain_rename]
        rfl
      · rw [Section.last_rename]
        exact Section.map_subscription_wires_rename (.filter head.last) sections
  | @produced decl chain factory program sections _ body known accepted links =>
    cases h' with
    | fragment body' => simp [body] at body'
    | @produced decl' chain' factory' program' sections' _ body' known' accepted' links' =>
      rw [body, RuleBody.produced.injEq] at body'
      obtain ⟨rfl, rfl⟩ := body'
      rw [nodes_produced, nodes_produced, List.map_cons, List.map_cons, List.map_map,
        List.map_map, List.cons.injEq] at hids
      obtain ⟨hid, hids⟩ := hids
      have hsections := links.renamed hregistry hconfig hcallee links' hids
      subst hsections
      rw [hregistry, known, Option.some.injEq] at known'
      rw [← known', hconfig, accepted, Except.ok.injEq] at accepted'
      have hid : s'.next = ρ s.next := hid
      let producer : ProducerNode :=
        ⟨s.next, decl.name, rule.name, w.config.nodeParams decl.name decl.params, program⟩
      refine ⟨?_, Section.ties (.producer producer) sections,
        Section.map_subscription_wires (.producer producer) sections, ?_⟩
      · rw [Section.chain?_rename, hid, hconfig, ← accepted']
        rfl
      · rw [hid]
        exact Section.map_subscription_wires_rename (.producer producer) sections

end Renamed
end Workshop
end RuleGraph
