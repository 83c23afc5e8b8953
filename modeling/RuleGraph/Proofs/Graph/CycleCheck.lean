import Mathlib
import RuleGraph.Proofs.Graph.Nodes

/-!
# The check for cycles

A wire into a filter that a rule makes for itself never closes a cycle, for no edge begins at a
node that is new. So a cycle is always closed by the splice of a called rule, and a rule is refused
on account of a cycle just when its wires would make one.
-/
namespace RuleGraph

namespace Workshop

variable {w : Workshop}

/-- No wire into a filter of the rule's own closes a cycle: the number of the filter is behind all
numbers from which edges lead so far. -/
theorem Made.not_leads {rule : String} {s s' : Supply} {links : List Link}
    {sections : List Section} (h : Made w rule s links sections s') {k : Nat}
    (hnext : s.next = .nth k) (hroom : k + (Section.owned sections).length ≤ NodeId.room)
    (hcallee : ∀ name callee, w.callee? name = some callee → callee.last.topic.Given k)
    {topic : Topic} (htopic : topic.Given k)
    {edges : List Edge} (hedges : ∀ e ∈ edges, e.source.Given k)
    {before after : List Wire} {v : Wire}
    (hsplit : Section.wires topic sections = before ++ v :: after) (hown : v.call = none) :
    ¬ Leads (edges ++ before.map Wire.edge) v.target.topic v.topic := by
  induction h generalizing k topic edges before with
  | nil => simp [Section.wires] at hsplit
  | @filter s _ type _ _ _ _ _ sections _ _ _ ih =>
    simp only [Section.owned_filter, List.length_cons] at hroom
    cases before with
    | nil =>
      obtain ⟨rfl, -⟩ := List.cons.inj hsplit
      intro hwalk
      have hnew : ∀ t : Topic, t.Given k → t ≠ .ofNode type s.next := by
        rw [hnext]
        exact fun t ht => ht.ne (by omega) type
      obtain ⟨e, he, hsource⟩ := hwalk.exists_edge (hnew topic htopic).symm
      exact hnew _ (hedges e (by simpa using he)) hsource
    | cons u before =>
      obtain ⟨rfl, htail⟩ := List.cons.inj hsplit
      rw [List.map_cons, List.append_cons]
      refine ih (Supply.next_take hnext _ _) (by omega)
        (fun name callee hvisible => (hcallee name callee hvisible).mono (Nat.le_succ k))
        ⟨k, by omega, type, by rw [← hnext]; rfl⟩ (fun e he => ?_) htail
      rcases List.mem_append.mp he with he | he
      · exact (hedges e he).mono (Nat.le_succ k)
      · cases List.mem_singleton.mp he
        exact htopic.mono (Nat.le_succ k)
  | @call _ _ name callee chain _ _ hvisible hflow _ ih =>
    cases before with
    | nil =>
      obtain ⟨rfl, -⟩ := List.cons.inj hsplit
      simp [Section.call?] at hown
    | cons u before =>
      obtain ⟨rfl, htail⟩ := List.cons.inj hsplit
      have hlast : chain.last.topic.Given k := by
        have hlast := hcallee name callee hvisible
        rw [CompiledRule.last, hflow] at hlast
        exact hlast
      rw [List.map_cons, List.append_cons]
      refine ih hnext hroom hcallee hlast (fun e he => ?_) htail
      rcases List.mem_append.mp he with he | he
      · exact hedges e he
      · cases List.mem_singleton.mp he
        exact htopic

theorem MadeRule.not_leads {rule : Rule} {s s' : Supply} {flow : Flow} {wires : List Wire}
    (h : MadeRule w rule s flow wires s') {k : Nat} (hnext : s.next = .nth k)
    (hroom : k + flow.nodes.length ≤ NodeId.room)
    (hcallee : ∀ name callee, w.callee? name = some callee → callee.last.topic.Given k)
    {edges : List Edge} (hedges : ∀ e ∈ edges, e.source.Given k)
    {before after : List Wire} {v : Wire} (hsplit : wires = before ++ v :: after)
    (hown : v.call = none) :
    ¬ Leads (edges ++ before.map Wire.edge) v.target.topic v.topic := by
  have hnextTake (type : String) (params : Params) := Supply.next_take hnext type params
  have hcallee' (name : String) (callee : CompiledRule) (hc : w.callee? name = some callee) :=
    (hcallee name callee hc).mono (Nat.le_succ k)
  have hedges' (e : Edge) (he : e ∈ edges) := (hedges e he).mono (Nat.le_succ k)
  cases h with
  | fragment _ links =>
    rw [nodes_fragment, List.length_map] at hroom
    cases links with
    | @filter _ _ type _ _ _ _ _ _ _ _ rest =>
      simp only [Section.owned_filter, List.length_cons] at hroom
      exact rest.not_leads (hnextTake _ _) (by omega) hcallee'
        ⟨k, by omega, type, by rw [← hnext]; rfl⟩ hedges' hsplit hown
    | @call _ _ name callee chain _ _ hvisible hflow rest =>
      have hlast := hcallee name callee hvisible
      rw [CompiledRule.last, hflow] at hlast
      exact rest.not_leads hnext hroom hcallee hlast hedges hsplit hown
  | @produced decl _ _ _ _ _ _ _ _ links =>
    simp only [nodes_produced, List.length_cons, List.length_map] at hroom
    exact links.not_leads (hnextTake _ _) (by omega) hcallee'
      ⟨k, by omega, decl.name, by rw [hnext]⟩ hedges' hsplit hown

end Workshop

namespace Ruleset

variable {rs : Ruleset}

/-- A rule that is built is refused on account of a cycle just when a wire of it closes one; the
error names the rule that this wire calls, or the rule itself if it calls none. -/
theorem addRule_eq_cyclicCall_iff {file : Path} {rule : Rule} {deps : List Path} {flow : Flow}
    {wires : List Wire} {s : Supply} (hname : rule.name ≠ "") (hnew : rs.rule? rule.name = none)
    (hbuild : (rs.workshop file deps).buildRule rule rs.supply = (.ok (flow, wires), s))
    {c : String} :
    (rs.addRule file rule deps).1 = .error (.inRule file rule.name (.cyclicCall c)) ↔
      ∃ v, firstCycle? rs.downstream wires = some v ∧ v.call.getD rule.name = c := by
  have hdownstream : (rs.use s).downstream = rs.downstream := rfl
  have htry : rs.tryRule file rule deps = (rs.use s).install file rule.name flow wires := by
    simp [tryRule, hname, hnew, hbuild]
  rw [addRule, htry, install, hdownstream]
  cases hcycle : firstCycle? rs.downstream wires with
  | some v => simp
  | none =>
    simp only
    cases hconnect : (rs.use s).connect wires with
    | mk connected rs' =>
      cases connected with
      | ok _ => simp
      | error e =>
        obtain ⟨-, w, -, refusal, -, -, -, rfl⟩ := connect_eq_error hconnect
        cases refusal <;> simp [GraphError.ofRefusal]

/-- The nodes at which called rules end have numbers that were given out. -/
theorem callee_last_given (hnumbered : rs.Numbered) (hgrounded : rs.Grounded) {file : Path}
    {deps : List Path} {name : String} {callee : CompiledRule}
    (h : (rs.workshop file deps).callee? name = some callee) :
    callee.last.topic.Given rs.issued :=
  hnumbered.topic_given (hgrounded.ends callee (callee?_eq_some h).1).2

/-- The wire that closes a cycle is the splice of a called rule. -/
theorem call_of_closes_cycle (hnumbered : rs.Numbered) (hgrounded : rs.Grounded) {file : Path}
    {rule : Rule} {deps : List Path} {flow : Flow} {wires before after : List Wire} {s : Supply}
    {v : Wire} (hmade : (rs.workshop file deps).MadeRule rule rs.supply flow wires s)
    (hroom : (rs.use s).issued ≤ NodeId.room) (hsplit : wires = before ++ v :: after)
    (hwalk : Leads (rs.downstream ++ before.map Wire.edge) v.target.topic v.topic) :
    ∃ c, v.call = some c ∧ rule.body.joined[before.length]? = some (.call c) := by
  obtain ⟨made, rfl, hlength⟩ := hmade.exists_takeAll
  rw [issued_use, hlength] at hroom
  have hsource (e : Edge) (he : e ∈ rs.downstream) := (hgrounded.edges e he).1
  cases hcall : v.call with
  | none =>
    exact absurd hwalk (hmade.not_leads hnumbered.next hroom
      (fun _ _ => callee_last_given hnumbered hgrounded) hsource hsplit hcall)
  | some c =>
    have hlink := congrArg (·[before.length]?) hmade.map_call
    simp only [hsplit, List.map_append, List.map_cons, List.getElem?_map, hcall,
      List.getElem?_append_right, List.length_map, Nat.le_refl, Nat.sub_self,
      List.getElem?_cons_zero] at hlink
    obtain ⟨link, hlink, hcallee⟩ := Option.map_eq_some_iff.mp hlink.symm
    cases link with
    | filter => simp [Link.call?] at hcallee
    | call name => exact ⟨c, rfl, by rw [hlink, ← Option.some.inj hcallee]⟩

/-- In every history the subscriptions are the recorded edges and make no cycle. A rule whose nodes
and wires are built is refused on account of a cycle just when its wires would make one, and the
error names the rule called by the first link whose wire closes it. -/
theorem cycle_check_exact (registry : Registry) (config : Config) (calls : List Call) :
    let rs := after registry config calls
    Acyclic rs.bus.edges ∧ (∀ e, e ∈ rs.bus.edges ↔ e ∈ rs.downstream) ∧
    ∀ (file : Path) (rule : Rule) (deps : List Path) (flow : Flow) (wires : List Wire)
      (s : Supply), rule.name ≠ "" → rs.rule? rule.name = none →
      (rs.workshop file deps).buildRule rule rs.supply = (.ok (flow, wires), s) →
      (rs.use s).issued ≤ 2 ^ 32 →
      ((∃ c, (rs.addRule file rule deps).1 = .error (.inRule file rule.name (.cyclicCall c))) ↔
        ¬ Acyclic (rs.bus.edges ++ wires.map Wire.edge)) ∧
      ∀ c, (rs.addRule file rule deps).1 = .error (.inRule file rule.name (.cyclicCall c)) →
        ∃ before splice after, wires = before ++ splice :: after ∧ splice.call = some c ∧
          rule.body.joined[before.length]? = some (.call c) ∧
          Acyclic (rs.bus.edges ++ before.map Wire.edge) ∧
          ¬ Acyclic (rs.bus.edges ++ (before ++ [splice]).map Wire.edge) := by
  intro rs
  have hwired : rs.Wired := wired_after registry config calls
  have hnumbered : rs.Numbered := numbered_after registry config calls
  have hgrounded : rs.Grounded := grounded_after registry config calls
  have hgraph (more : List Edge) :
      Acyclic (rs.bus.edges ++ more) ↔ Acyclic (rs.downstream ++ more) :=
    acyclic_congr fun e => by simp [hwired.mem_edges e]
  refine ⟨hwired.acyclic_bus, hwired.mem_edges, ?_⟩
  intro file rule deps flow wires s hname hnew hbuild hroom
  have herror (c : String) := addRule_eq_cyclicCall_iff (c := c) hname hnew hbuild
  have hmade := Workshop.buildRule_eq_ok_iff.mp hbuild
  constructor
  · rw [hgraph, ← firstCycle?_eq_none_iff hwired.acyclic]
    simp only [herror]
    cases firstCycle? rs.downstream wires <;> simp
  · intro c hc
    obtain ⟨v, hfound, hname⟩ := (herror c).mp hc
    obtain ⟨before, after, hsplit, hacyclic, hwalk⟩ := firstCycle?_eq_some hwired.acyclic hfound
    obtain ⟨called, hcall, hlink⟩ :=
      call_of_closes_cycle hnumbered hgrounded hmade hroom hsplit hwalk
    obtain rfl : called = c := by simpa [hcall] using hname
    refine ⟨before, v, after, hsplit, hcall, hlink, (hgraph _).mpr hacyclic, fun hacyclic' => ?_⟩
    rw [List.map_append, hgraph, List.map_singleton, ← List.append_assoc] at hacyclic'
    exact (acyclic_concat_iff.mp hacyclic').2 hwalk

/-- A fragment that is called twice in a row would feed itself. -/
theorem cycle_check_exact_called_twice :
    let registry := Registry.empty.addFilter "pass" fun _ => .ok .matched
    let once : Rule := ⟨"once", ⟨1, 1⟩, .fragment (.filter "pass" [] false) []⟩
    let twice : Rule := ⟨"twice", ⟨2, 1⟩, .fragment (.call "once") [.call "once"]⟩
    let rs := after registry .empty [.addRule ⟨"m"⟩ once []]
    ∃ flow wires s, twice.name ≠ "" ∧ rs.rule? twice.name = none ∧
      (rs.workshop ⟨"m"⟩ []).buildRule twice rs.supply = (.ok (flow, wires), s) ∧
      (rs.use s).issued ≤ 2 ^ 32 ∧
      (rs.addRule ⟨"m"⟩ twice []).1 = .error (.inRule ⟨"m"⟩ "twice" (.cyclicCall "once")) ∧
      ¬ Acyclic (rs.bus.edges ++ wires.map Wire.edge) := by
  intro registry once twice rs
  have hok : ((rs.workshop ⟨"m"⟩ []).buildRule twice rs.supply).1.isOk = true := by cbv
  have hroom : (rs.use ((rs.workshop ⟨"m"⟩ []).buildRule twice rs.supply).2).issued ≤ 2 ^ 32 := by
    cbv
  obtain ⟨built, hbuilt⟩ : ∃ built, (rs.workshop ⟨"m"⟩ []).buildRule twice rs.supply = built :=
    ⟨_, rfl⟩
  rw [hbuilt] at hok hroom
  obtain ⟨⟨flow, wires⟩, hresult⟩ : ∃ p, built.1 = .ok p := by
    cases hresult : built.1 with
    | error e => simp [hresult, Except.isOk, Except.toBool] at hok
    | ok p => exact ⟨p, rfl⟩
  have hbuild := hbuilt.trans (Prod.ext hresult rfl : built = (.ok (flow, wires), built.2))
  have hname : twice.name ≠ "" := by decide
  have hnew : rs.rule? twice.name = none := by cbv
  have herror : (rs.addRule ⟨"m"⟩ twice []).1 =
      .error (.inRule ⟨"m"⟩ "twice" (.cyclicCall "once")) := by cbv
  have hexact := (cycle_check_exact registry .empty [.addRule ⟨"m"⟩ once []]).2.2 ⟨"m"⟩ twice []
    flow wires built.2 hname hnew hbuild hroom
  exact ⟨flow, wires, built.2, hname, hnew, hbuild, hroom, herror, hexact.1.mp ⟨_, herror⟩⟩

end Ruleset
end RuleGraph
