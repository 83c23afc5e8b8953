import RuleGraph.Proofs.Graph.Nodes
import RuleGraph.Proofs.Program.Places
import RuleGraph.Proofs.Program.Stops

/-!
# Charts

A chart tells which topics the places of rules stand for, so that the edges of a graph are the ways
along the stops of these rules. A rule that is built behind others extends the chart of a graph with
its wires.
-/
namespace RuleGraph

/-- Places stand for topics with the first `k` numbers, each place for one of its own, and stops
feed each other just along edges. -/
structure Chart (rules : List Rule) (edges : List Edge) (k : Nat) (topic : Place → Topic) :
    Prop where
  resolved : Resolved rules
  edges : ∀ e, e ∈ edges ↔ ∃ p q, Feeds rules p q ∧ e = ⟨topic p, topic q⟩
  given : ∀ type p, DeclaredAs rules type p → ∃ n < k, topic p = .ofNode type (.nth n)
  inj : ∀ p q, Declared rules p → Declared rules q → topic p = topic q → p = q

/-- A rule begins and ends where a compiled rule does. -/
def EndsWith (rules : List Rule) (topic : Place → Topic) (r : Rule) (c : CompiledRule) : Prop :=
  ∀ side : Side, ∃ p, EndsAt rules side r (side.stop r) p ∧ (side.node c).topic = topic p

variable {rules more : List Rule} {edges : List Edge} {k : Nat} {topic topic' : Place → Topic}
  {rule : Rule} {ends : List (Topic × Topic)} {w : Workshop}

theorem EndsWith.mono {r : Rule} {c : CompiledRule} (hsub : ∀ r ∈ rules, r ∈ more)
    (hsame : ∀ p, Declared rules p → topic' p = topic p) (h : EndsWith rules topic r c) :
    EndsWith more topic' r c := by
  intro side
  obtain ⟨p, hp, htopic⟩ := h side
  exact ⟨p, hp.mono hsub, htopic.trans (hsame p hp.declared).symm⟩

namespace Chart

theorem acyclic_iff (h : Chart rules edges k topic) : Acyclic edges ↔ CycleFree rules :=
  acyclic_iff_cycleFree h.edges h.inj

/-- Threads can be started for the topics that edges leave just when they can for the places that
these stand for. -/
theorem dispatchable_iff (h : Chart rules edges k topic) {given : Threads} :
    ((∀ e ∈ edges, e.source.Nameable) ∧ given.Suffice fun t => ∃ e ∈ edges, e.source = t) ↔
      Dispatchable given rules := by
  have hthreads : (given.Suffice fun t => ∃ e ∈ edges, e.source = t) ↔
      given.Suffice fun p => ∃ q, Feeds rules p q := by
    refine Threads.suffice_image_iff topic (fun t => ?_) fun p p' ⟨q, hp⟩ ⟨q', hp'⟩ =>
      h.inj p p' hp.declared.1 hp'.declared.1
    constructor
    · rintro ⟨e, he, rfl⟩
      obtain ⟨p, q, hfeeds, rfl⟩ := (h.edges e).mp he
      exact ⟨p, ⟨q, hfeeds⟩, rfl⟩
    · rintro ⟨p, ⟨q, hfeeds⟩, rfl⟩
      exact ⟨_, (h.edges _).mpr ⟨p, q, hfeeds, rfl⟩, rfl⟩
  constructor
  · rintro ⟨hnamed, hsuffice⟩
    refine ⟨fun type p q hp hfeeds => ?_, hthreads.mp hsuffice⟩
    obtain ⟨n, -, htopic⟩ := h.given type p hp
    have hsource := hnamed _ ((h.edges _).mpr ⟨p, q, hfeeds, rfl⟩)
    exact Topic.nameable_ofNode.mp (htopic ▸ hsource)
  · intro hrules
    refine ⟨fun e he => ?_, hthreads.mpr hrules.threads⟩
    obtain ⟨p, q, hfeeds, rfl⟩ := (h.edges e).mp he
    obtain ⟨type, hp⟩ := hfeeds.declared.1
    obtain ⟨n, -, htopic⟩ := h.given type p hp
    exact htopic ▸ Topic.nameable_ofNode.mpr (hrules.nameable type p q hp hfeeds)

theorem congr {edges' : List Edge} (h : Chart rules edges k topic)
    (hsame : ∀ e, e ∈ edges' ↔ e ∈ edges) : Chart rules edges' k topic :=
  ⟨h.resolved, fun e => (hsame e).trans (h.edges e), h.given, h.inj⟩

theorem of_mem_iff (h : Chart rules edges k topic) (hsame : ∀ r, r ∈ rules ↔ r ∈ more) :
    Chart more edges k topic := by
  have hsub : ∀ r ∈ rules, r ∈ more := fun r hr => (hsame r).mp hr
  have hback : ∀ r ∈ more, r ∈ rules := fun r hr => (hsame r).mpr hr
  refine ⟨fun r hr side i hi => ?_, fun e => ?_, fun type p hp => h.given type p (hp.mono hback),
    fun p q hp hq => h.inj p q (hp.mono hback) (hq.mono hback)⟩
  · obtain ⟨p, hp⟩ := h.resolved r (hback r hr) side i hi
    exact ⟨p, hp.mono hsub⟩
  · rw [h.edges e]
    constructor
    · rintro ⟨p, q, hfeeds, he⟩
      exact ⟨p, q, hfeeds.mono hsub, he⟩
    · rintro ⟨p, q, hfeeds, he⟩
      exact ⟨p, q, hfeeds.mono hback, he⟩

end Chart

/-- The topics of a chart, and those of the stops of one more rule. -/
def extendTopics (topic : Place → Topic) (rule : Rule) (ends : List (Topic × Topic)) (p : Place) :
    Topic :=
  if p.rule = rule.name then ((ends[p.stop]?).map Prod.fst).getD default else topic p

theorem extendTopics_of_declared (hnames : ((rules ++ [rule]).map Rule.name).Nodup) {p : Place}
    (hp : Declared rules p) : extendTopics topic rule ends p = topic p := by
  obtain ⟨type, r, hr, hname, -⟩ := hp
  rw [extendTopics, if_neg]
  intro heq
  rw [List.map_append, List.nodup_append] at hnames
  exact hnames.2.2 _ (List.mem_map_of_mem hr) _ (by simp) (hname.trans heq)

/-- A declared place is one of the rules in front, or a node of the last rule. -/
theorem declaredAs_concat {type : String} {p : Place} (hp : DeclaredAs (rules ++ [rule]) type p) :
    DeclaredAs rules type p ∨
      p.rule = rule.name ∧ rule.body.stops[p.stop]? = some (.node type) := by
  obtain ⟨r, hr, hname, hstop⟩ := hp
  rcases List.mem_append.mp hr with hr | hr
  · exact .inl ⟨r, hr, hname, hstop⟩
  · obtain rfl := List.mem_singleton.mp hr
    exact .inr ⟨hname.symm, hstop⟩

theorem countP_take_lt {stops : List Stop} {i j : Nat} {type : String}
    (hi : stops[i]? = some (.node type)) (hij : i < j) :
    (stops.take i).countP Stop.isNode < (stops.take j).countP Stop.isNode := by
  have hnext : (stops.take (i + 1)).countP Stop.isNode =
      (stops.take i).countP Stop.isNode + 1 := by
    rw [List.take_add_one, hi, List.countP_append]
    rfl
  have hle : (stops.take (i + 1)).countP Stop.isNode ≤ (stops.take j).countP Stop.isNode :=
    (List.take_sublist_take_left hij).countP_le
  omega

/-- The topic of a node of the last rule has a number behind the first `k`. -/
theorem extendTopics_node (topic : Place → Topic) (hfits : w.Fits k rule.body.stops ends)
    {p : Place} {type : String} (hrule : p.rule = rule.name)
    (hstop : rule.body.stops[p.stop]? = some (.node type)) :
    extendTopics topic rule ends p =
      .ofNode type (.nth (k + (rule.body.stops.take p.stop).countP Stop.isNode)) ∧
      ends[p.stop]? = some (extendTopics topic rule ends p, extendTopics topic rule ends p) := by
  obtain ⟨t, hends, ht⟩ := hfits.getElem?_node hstop
  have htopic : extendTopics topic rule ends p = t := by simp [extendTopics, hrule, hends]
  exact ⟨htopic.trans ht, by rw [htopic, hends]⟩

section Extend

variable (hchart : Chart rules edges k topic)
  (hnames : ((rules ++ [rule]).map Rule.name).Nodup) (hfits : w.Fits k rule.body.stops ends)
  (hroom : k + rule.nodeCount ≤ NodeId.room)
  (hcallee : ∀ name callee, w.callee? name = some callee →
    ∃ r ∈ rules, r.name = name ∧ EndsWith rules topic r callee)

include hnames hfits

include hcallee in
/-- Every stop of the last rule is entered and left at the topic that it was built with. -/
theorem exists_endsAt {i : Nat} (hi : i < rule.body.stops.length) (side : Side) :
    ∃ p, EndsAt (rules ++ [rule]) side rule i p ∧
      (ends[i]?).map side.of = some (extendTopics topic rule ends p) := by
  have hmem : rule ∈ rules ++ [rule] := by simp
  cases hstop : rule.body.stops[i] with
  | node type =>
    have hstop : rule.body.stops[i]? = some (.node type) := by
      rw [List.getElem?_eq_getElem hi, hstop]
    obtain ⟨-, hends⟩ := extendTopics_node topic hfits (p := ⟨rule.name, i⟩) rfl hstop
    refine ⟨_, .node hmem hstop, ?_⟩
    rw [hends]
    cases side <;> rfl
  | call name =>
    have hstop : rule.body.stops[i]? = some (.call name) := by
      rw [List.getElem?_eq_getElem hi, hstop]
    obtain ⟨callee, hvisible, hends⟩ := hfits.getElem?_call hstop
    obtain ⟨r, hr, rfl, hr'⟩ := hcallee name callee hvisible
    obtain ⟨p, hp, htopic⟩ := hr' side
    refine ⟨p, .call hmem hstop (hp.mono fun _ => List.mem_append_left _), ?_⟩
    rw [hends, extendTopics_of_declared hnames hp.declared, ← htopic]
    cases side <;> rfl

include hchart hcallee in
theorem edges_extend (e : Edge) :
    e ∈ edges ++ joints ends ↔ ∃ p q, Feeds (rules ++ [rule]) p q ∧
      e = ⟨extendTopics topic rule ends p, extendTopics topic rule ends q⟩ := by
  have hold {p : Place} (hp : Declared rules p) : extendTopics topic rule ends p = topic p :=
    extendTopics_of_declared hnames hp
  have hends {i : Nat} (hi : i < rule.body.stops.length) (side : Side) :=
    exists_endsAt hnames hfits hcallee hi side
  rw [List.mem_append, hchart.edges, mem_joints]
  constructor
  · rintro (⟨p, q, hfeeds, rfl⟩ | ⟨i, a, b, ha, hb, rfl⟩)
    · refine ⟨p, q, hfeeds.mono fun _ => List.mem_append_left _, ?_⟩
      rw [hold hfeeds.declared.1, hold hfeeds.declared.2]
    · have hlt : i + 1 < rule.body.stops.length := by
        rw [← hfits.length_eq]
        exact (List.getElem?_eq_some_iff.mp hb).1
      obtain ⟨p, hp, htopic⟩ := hends (Nat.lt_of_succ_lt hlt) .exit
      obtain ⟨q, hq, htopic'⟩ := hends hlt .entry
      refine ⟨p, q, .next hp hq, ?_⟩
      rw [ha] at htopic
      rw [hb] at htopic'
      rw [← Option.some.inj htopic, ← Option.some.inj htopic']
      rfl
  · rintro ⟨p, q, hfeeds, rfl⟩
    rcases (feeds_concat_iff hnames hchart.resolved).mp hfeeds with hfeeds | ⟨i, hleave, henter⟩
    · exact .inl ⟨p, q, hfeeds, by rw [hold hfeeds.declared.1, hold hfeeds.declared.2]⟩
    · -- each end of a stop is one place, so its topic is the one that the wire has
      obtain ⟨p', hp', htopic⟩ := hends hleave.lt_length .exit
      obtain ⟨q', hq', htopic'⟩ := hends henter.lt_length .entry
      obtain rfl := hleave.unique hnames hp'
      obtain rfl := henter.unique hnames hq'
      obtain ⟨a, ha, hleft⟩ := Option.map_eq_some_iff.mp htopic
      obtain ⟨b, hb, hentered⟩ := Option.map_eq_some_iff.mp htopic'
      refine .inr ⟨i, a, b, ha, hb, ?_⟩
      rw [← hleft, ← hentered]
      rfl

include hchart hroom in
theorem inj_extend {p q : Place} (hp : Declared (rules ++ [rule]) p)
    (hq : Declared (rules ++ [rule]) q)
    (heq : extendTopics topic rule ends p = extendTopics topic rule ends q) : p = q := by
  have hlt {i : Nat} {type : String} (hi : rule.body.stops[i]? = some (.node type)) :
      k + (rule.body.stops.take i).countP Stop.isNode < NodeId.room := by
    have := countP_take_lt hi (List.getElem?_eq_some_iff.mp hi).1
    rw [List.take_length, ← Rule.nodeCount] at this
    omega
  -- places in front have numbers below `k`, and those of the rule itself have not
  have hapart {p q : Place} {type other : String} (hp : DeclaredAs rules other p)
      (hrule : q.rule = rule.name) (hstop : rule.body.stops[q.stop]? = some (.node type)) :
      extendTopics topic rule ends p ≠ extendTopics topic rule ends q := by
    obtain ⟨htopic, -⟩ := extendTopics_node topic hfits hrule hstop
    obtain ⟨n, hn, htopic'⟩ := hchart.given other p hp
    rw [extendTopics_of_declared hnames ⟨other, hp⟩, htopic, htopic']
    intro heq
    have := NodeId.nth_injective (by have := hlt hstop; omega) (hlt hstop) (Topic.ofNode_inj heq).2
    omega
  obtain ⟨type, hp⟩ := hp
  obtain ⟨type', hq⟩ := hq
  rcases declaredAs_concat hp with hp | ⟨hrule, hstop⟩ <;>
    rcases declaredAs_concat hq with hq | ⟨hrule', hstop'⟩
  · rw [extendTopics_of_declared hnames ⟨type, hp⟩,
      extendTopics_of_declared hnames ⟨type', hq⟩] at heq
    exact hchart.inj p q ⟨type, hp⟩ ⟨type', hq⟩ heq
  · exact absurd heq (hapart hp hrule' hstop')
  · exact absurd heq.symm (hapart hq hrule hstop)
  · obtain ⟨htopic, -⟩ := extendTopics_node topic hfits hrule hstop
    obtain ⟨htopic', -⟩ := extendTopics_node topic hfits hrule' hstop'
    rw [htopic, htopic'] at heq
    have hcount := NodeId.nth_injective (hlt hstop) (hlt hstop') (Topic.ofNode_inj heq).2
    have hstops : p.stop = q.stop := by
      rcases Nat.lt_trichotomy p.stop q.stop with hlt | heq | hlt
      · have := countP_take_lt hstop hlt
        omega
      · exact heq
      · have := countP_take_lt hstop' hlt
        omega
    obtain ⟨_, _⟩ := p
    obtain ⟨_, _⟩ := q
    simp_all

include hchart hroom hcallee in
/-- The chart of a graph with one more rule and its wires. -/
theorem Chart.extend : Chart (rules ++ [rule]) (edges ++ joints ends) (k + rule.nodeCount)
    (extendTopics topic rule ends) := by
  refine ⟨fun r hr side i hi => ?_, edges_extend hchart hnames hfits hcallee,
    fun type p hp => ?_,
    fun p q => inj_extend hchart hnames hfits hroom⟩
  · rcases List.mem_append.mp hr with hr | hr
    · obtain ⟨p, hp⟩ := hchart.resolved r hr side i hi
      exact ⟨p, hp.mono fun _ => List.mem_append_left _⟩
    · obtain rfl := List.mem_singleton.mp hr
      obtain ⟨p, hp, -⟩ := exists_endsAt hnames hfits hcallee hi side
      exact ⟨p, hp⟩
  · rcases declaredAs_concat hp with hp | ⟨hrule, hstop⟩
    · rw [extendTopics_of_declared hnames ⟨type, hp⟩]
      obtain ⟨n, hn, htopic⟩ := hchart.given type p hp
      exact ⟨n, Nat.lt_add_right _ hn, htopic⟩
    · obtain ⟨htopic, -⟩ := extendTopics_node topic hfits hrule hstop
      have hlt := countP_take_lt hstop (List.getElem?_eq_some_iff.mp hstop).1
      rw [List.take_length, ← Rule.nodeCount] at hlt
      exact ⟨_, by omega, htopic⟩

end Extend
end RuleGraph
