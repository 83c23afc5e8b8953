import RuleGraph.Proofs.Graph.History
import RuleGraph.Proofs.Graph.Reachability

/-!
# The graph of subscriptions

A filter that is subscribed to a topic makes an edge from this topic to its own. In every history
these edges are the ones recorded in `downstream`, and they make no cycle.
-/
namespace RuleGraph

namespace Bus

/-- An update changes the channel of its topic only. -/
theorem channel?_update {σ : Type} (bus : Bus σ) {topic t : Topic}
    (f : Channel σ → Channel σ) (hf : ∀ c, (f c).topic = c.topic) :
    (bus.update topic f).channel? t =
      (bus.channel? t).map fun c => if c.topic = topic then f c else c := by
  have htopic : ((fun c : Channel σ => decide (c.topic = t)) ∘
      fun c => if c.topic = topic then f c else c) = fun c => decide (c.topic = t) := by
    funext c
    simp only [Function.comp_apply]
    split
    · rw [hf]
    · rfl
  rw [channel?, update, List.find?_map, htopic]
  rfl

/-- The topics of a bus with the filters that are subscribed to them. -/
def subscriptions (bus : Bus FilterNode) : List (Topic × FilterNode) :=
  bus.channels.flatMap fun c => c.subscribers.map fun n => (c.topic, n)

def edges (bus : Bus FilterNode) : List Edge :=
  bus.subscriptions.map fun s => ⟨s.1, s.2.topic⟩

theorem mem_subscriptions {bus : Bus FilterNode} {s : Topic × FilterNode} :
    s ∈ bus.subscriptions ↔ ∃ c ∈ bus.channels, c.topic = s.1 ∧ s.2 ∈ c.subscribers := by
  obtain ⟨topic, n⟩ := s
  simp only [subscriptions, List.mem_flatMap, List.mem_map, Prod.mk.injEq]
  constructor
  · rintro ⟨c, hc, n', hn, htopic, rfl⟩
    exact ⟨c, hc, htopic, hn⟩
  · rintro ⟨c, hc, htopic, hn⟩
    exact ⟨c, hc, n, hn, htopic, rfl⟩

theorem mem_subscriptions_join {bus : Bus FilterNode} {topic : Topic} {n : FilterNode}
    {s : Topic × FilterNode} :
    s ∈ (bus.join topic n).subscriptions ↔ s ∈ bus.subscriptions ∨ s = (topic, n) := by
  unfold join
  split
  · rename_i hsome
    simp only [mem_subscriptions, update, List.mem_map]
    constructor
    · rintro ⟨_, ⟨c, hc, rfl⟩, htopic, hn⟩
      split at htopic
      · rename_i heq
        rw [if_pos heq] at hn
        rcases List.mem_append.mp hn with hn | hn
        · exact .inl ⟨c, hc, htopic, hn⟩
        · exact .inr (Prod.ext (htopic.symm.trans heq) (List.mem_singleton.mp hn))
      · rename_i hne
        rw [if_neg hne] at hn
        exact .inl ⟨c, hc, htopic, hn⟩
    · rintro (⟨c, hc, htopic, hn⟩ | rfl)
      · refine ⟨_, ⟨c, hc, rfl⟩, ?_⟩
        split <;> simp [htopic, hn]
      · obtain ⟨c, hc⟩ := Option.isSome_iff_exists.mp hsome
        have htopic : c.topic = topic := by simpa using List.find?_some hc
        refine ⟨_, ⟨c, List.mem_of_find?_eq_some hc, rfl⟩, ?_⟩
        simp [htopic]
  · simp only [mem_subscriptions, List.mem_append, List.mem_singleton]
    constructor
    · rintro ⟨c, hc | rfl, htopic, hn⟩
      · exact .inl ⟨c, hc, htopic, hn⟩
      · exact .inr (Prod.ext htopic.symm (List.mem_singleton.mp hn))
    · rintro (⟨c, hc, htopic, hn⟩ | rfl)
      · exact ⟨c, .inl hc, htopic, hn⟩
      · exact ⟨_, .inr rfl, rfl, List.mem_singleton.mpr rfl⟩

theorem mem_edges_join {bus : Bus FilterNode} {topic : Topic} {n : FilterNode} {e : Edge} :
    e ∈ (bus.join topic n).edges ↔ e ∈ bus.edges ∨ e = ⟨topic, n.topic⟩ := by
  simp only [edges, List.mem_map, mem_subscriptions_join]
  constructor
  · rintro ⟨s, hs | rfl, rfl⟩
    · exact .inl ⟨s, hs, rfl⟩
    · exact .inr rfl
  · rintro (⟨s, hs, rfl⟩ | rfl)
    · exact ⟨s, .inl hs, rfl⟩
    · exact ⟨_, .inr rfl, rfl⟩

end Bus

namespace Ruleset

variable {rs rs' : Ruleset}

theorem mem_addEdge {edges : List Edge} {e f : Edge} :
    f ∈ addEdge edges e ↔ f ∈ edges ∨ f = e := by
  unfold addEdge
  split <;> simp_all

/-- Connecting wires changes nothing but the subscriptions, their record, and what the system will
answer. -/
theorem connect_frame (rs : Ruleset) (wires : List Wire) :
    ∃ bus downstream threads, (rs.connect wires).2 = { rs with bus, downstream, threads } := by
  refine connect_induction
    (P := fun r => ∃ bus downstream threads, r = { rs with bus, downstream, threads })
    ?_ wires ⟨rs.bus, rs.downstream, rs.threads, rfl⟩
  rintro _ w threads ⟨bus, downstream, _, rfl⟩ _
  exact ⟨bus.join w.topic w.target, addEdge downstream w.edge, threads, rfl⟩

theorem mem_downstream_connect {wires : List Wire} (h : rs.connect wires = (.ok (), rs'))
    {e : Edge} : e ∈ rs'.downstream ↔ e ∈ rs.downstream ++ wires.map Wire.edge := by
  induction wires generalizing rs with
  | nil =>
    cases h
    simp
  | cons w rest ih =>
    rcases connect_cons h with ⟨_, _, heq⟩ | ⟨threads, -, -, hrest⟩
    · cases heq
    · rw [ih hrest]
      simp [wired, mem_addEdge, or_assoc]

/-- The bus is open, its subscriptions are the recorded edges, and these make no cycle. -/
structure Wired (rs : Ruleset) : Prop where
  isOpen : rs.bus.closed = false
  mem_edges : ∀ e, e ∈ rs.bus.edges ↔ e ∈ rs.downstream
  acyclic : Acyclic rs.downstream

theorem wired_new (registry : Registry) (config : Config) : (new registry config).Wired :=
  ⟨rfl, fun _ => Iff.rfl, acyclic_nil⟩

theorem Wired.acyclic_bus (h : rs.Wired) : Acyclic rs.bus.edges :=
  (acyclic_congr h.mem_edges).mpr h.acyclic

theorem Wired.congr (h : rs.Wired) (hbus : rs'.bus = rs.bus)
    (hdownstream : rs'.downstream = rs.downstream) : rs'.Wired :=
  ⟨hbus ▸ h.isOpen, fun e => by rw [hbus, hdownstream]; exact h.mem_edges e,
    hdownstream ▸ h.acyclic⟩

theorem mem_edges_connect (hedges : ∀ e, e ∈ rs.bus.edges ↔ e ∈ rs.downstream)
    (wires : List Wire) :
    ∀ e, e ∈ (rs.connect wires).2.bus.edges ↔ e ∈ (rs.connect wires).2.downstream := by
  refine connect_induction (P := fun rs => ∀ e, e ∈ rs.bus.edges ↔ e ∈ rs.downstream)
    (fun rs w threads h _ e => ?_) wires hedges
  change e ∈ (rs.bus.join w.topic w.target).edges ↔ e ∈ addEdge rs.downstream w.edge
  rw [Bus.mem_edges_join, h e, mem_addEdge]
  rfl

/-- What is connected without a cycle is wired. -/
theorem Wired.connect {wires : List Wire} (h : rs.Wired)
    (hacyclic : Acyclic (rs.downstream ++ wires.map Wire.edge))
    (hconnect : rs.connect wires = (.ok (), rs')) : rs'.Wired := by
  have hopen := isOpen_connect h.isOpen wires
  have hedges := mem_edges_connect h.mem_edges wires
  rw [hconnect] at hopen hedges
  exact ⟨hopen, hedges, (acyclic_congr fun _ => mem_downstream_connect hconnect).mpr hacyclic⟩

theorem Wired.addRule (h : rs.Wired) (file : Path) (rule : Rule) (deps : List Path) :
    (rs.addRule file rule deps).2.Wired := by
  rcases addRule_cases rs file rule deps with
    ⟨e, made, -, heq⟩ | ⟨t, s, rs', result, hlays, -, heq⟩
  · rw [heq]
    exact h.congr rfl rfl
  · have hused : (rs.use s).Wired := h.congr rfl rfl
    have hacyclic := (firstCycle?_eq_none_iff h.acyclic).mp hlays.acyclic
    rw [List.map_append, ← List.append_assoc] at hacyclic
    have hwired := hused.connect (.mono (fun _ => List.mem_append_left _) hacyclic) hlays.connected
    rw [heq]
    exact hwired.congr rfl rfl

/-- In every history the subscriptions are the recorded edges and make no cycle. -/
theorem wired_after (registry : Registry) (config : Config) (calls : List Call) :
    (after registry config calls).Wired :=
  after_induction (fun _ _ hsame h => h.congr hsame.bus hsame.downstream)
    (fun _ file rule deps h => h.addRule file rule deps) (wired_new registry config) calls

end Ruleset
end RuleGraph
