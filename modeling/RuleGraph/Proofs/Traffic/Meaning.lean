import RuleGraph.Proofs.Traffic.Interleaving

/-!
# What a graph makes of messages

The messages that are published on each topic solve the equations of the graph: on the topic of a
node there is what the node makes of the messages put in at it, and of those published on the topics
that it is subscribed to. Edges make no cycle, so the equations have one solution, and every run of
the dispatchers to its end publishes just these messages, whatever the order of its steps.
-/
namespace RuleGraph

/-- The messages that a filter makes of one, stamped: those that it emits, and behind them its copy
if this passes. A filter that fails or panics lets no copy pass. -/
def FilterNode.outputs (n : FilterNode) (m : Message) : List Message :=
  let reaction := n.react m
  let copies :=
    match reaction.verdict with
    | .decided matched copy => if n.negated ^^ matched then [copy] else []
    | .failed _ | .panicked => []
  (reaction.emitted ++ copies).map fun o => o.set Message.ruleKey (.string n.rule)

/-- The messages that a node makes of one that is put in at it. -/
def Node.outputs (m : Message) : Node → List Message
  | .producer n => [n.stamp m]
  | .filter n => n.outputs m

theorem FilterNode.published_pipe (n : FilterNode) (m : Message) :
    (n.pipe m).published = (n.outputs m).map fun o => (n.topic, o) := by
  have hstamp (o : Message) : n.stamp o = o.set Message.ruleKey (.string n.rule) := rfl
  rw [pipe, outputs]
  cases (n.react m).verdict <;> simp [passed, hstamp, Function.comp_def]

theorem Node.published_feed (n : Node) (m : Message) :
    (n.feed m).published = (n.outputs m).map fun o => (n.topic, o) := by
  cases n with
  | producer n => rfl
  | filter n => exact n.published_pipe m

/-- The messages that were published on one topic, among others. -/
def messagesOn (t : Topic) (ps : Multiset (Topic × Message)) : Multiset Message :=
  (ps.filter fun p => p.1 = t).map Prod.snd

/-- What nodes with one topic make of the messages put in at them. -/
def fedOn (feeds : List (Node × Message)) (t : Topic) : Multiset Message :=
  ((feeds : Multiset (Node × Message)).filter fun f => f.1.topic = t).bind fun f =>
    ↑(f.1.outputs f.2)

/-- The equations of a graph for the messages that are published on each topic. -/
def IsMeaning (bus : Bus FilterNode) (feeds : List (Node × Message))
    (meaning : Topic → Multiset Message) : Prop :=
  ∀ t, meaning t = fedOn feeds t +
    ((bus.subscriptions : Multiset (Topic × FilterNode)).filter fun s => s.2.topic = t).bind
      fun s => (meaning s.1).bind fun m => ↑(s.2.outputs m)

/-- The deliveries of messages that are published on the topics, one for each subscription. -/
def Bus.allDeliveries (bus : Bus FilterNode) (meaning : Topic → Multiset Message) :
    Multiset (Delivery FilterNode) :=
  (bus.subscriptions : Multiset (Topic × FilterNode)).bind fun s =>
    (meaning s.1).map fun m => ⟨s.1, s.2, m⟩

variable {bus : Bus FilterNode} {feeds : List (Node × Message)} {t : Topic}

/-- A graph without cycles has one meaning at most: what is published on a topic hangs only on the
topics from which edges lead there. -/
theorem IsMeaning.unique (hacyclic : Acyclic bus.edges) {meaning other : Topic → Multiset Message}
    (h : IsMeaning bus feeds meaning) (h' : IsMeaning bus feeds other) : meaning = other := by
  funext t
  induction t using hacyclic.wellFounded_back.induction with
  | _ t ih =>
    rw [h t, h' t]
    congr 1
    refine Multiset.bind_congr fun s hs => ?_
    obtain ⟨hs, htopic⟩ := Multiset.mem_filter.mp hs
    -- the subscription is an edge into the topic
    rw [ih s.1 (htopic ▸ List.mem_map_of_mem hs)]

/-! ### Balance and meaning -/

theorem messagesOn_add (ps qs : Multiset (Topic × Message)) :
    messagesOn t (ps + qs) = messagesOn t ps + messagesOn t qs := by
  simp [messagesOn]

theorem map_filter_eq_bind {α β : Type} (as : Multiset α) (p : α → Prop) [DecidablePred p]
    (f : α → β) : (as.filter p).map f = as.bind fun a => if p a then {f a} else 0 := by
  rw [← Multiset.bind_singleton, Multiset.bind_filter]

theorem messagesOn_bind {α : Type} (as : Multiset α) (topic : α → Topic)
    (outputs : α → List Message) :
    messagesOn t (as.bind fun a => ↑((outputs a).map fun o => (topic a, o))) =
      (as.filter fun a => topic a = t).bind fun a => ↑(outputs a) := by
  rw [messagesOn, Multiset.filter_bind, Multiset.map_bind, Multiset.bind_filter]
  refine Multiset.bind_congr fun a _ => ?_
  split
  · rename_i htopic
    have hall : ((outputs a).map fun o => (topic a, o)).filter (fun p => p.1 = t) =
        (outputs a).map fun o => (topic a, o) := by simp [List.filter_eq_self, htopic]
    simp [hall, Function.comp_def]
  · rename_i htopic
    simp [htopic]

theorem messagesOn_fedPublications :
    messagesOn t (Traffic.fedPublications feeds) = fedOn feeds t := by
  rw [fedOn, ← messagesOn_bind, Traffic.fedPublications]
  simp only [← Node.published_feed, Multiset.coe_bind]

/-- The deliveries that messages cause, by subscriptions. -/
theorem caused_eq (hbus : bus.Sound) (ps : Multiset (Topic × Message)) :
    Traffic.caused bus ps = bus.allDeliveries fun t => messagesOn t ps := by
  have hdeliveries (p : Topic × Message) : (bus.deliveries p : Multiset (Delivery FilterNode)) =
      (bus.subscriptions : Multiset (Topic × FilterNode)).bind fun s =>
        if s.1 = p.1 then {⟨s.1, s.2, p.2⟩} else 0 := by
    rw [← map_filter_eq_bind, Multiset.filter_coe, 
      Bus.filter_subscriptions hbus.isOpen hbus.nodup, Bus.deliveries]
    simp [Function.comp_def]
  have hmessages (s : Topic × FilterNode) :
      ((messagesOn s.1 ps).map fun m => (⟨s.1, s.2, m⟩ : Delivery FilterNode)) =
        ps.bind fun p => if s.1 = p.1 then {⟨s.1, s.2, p.2⟩} else 0 := by
    rw [messagesOn, Multiset.map_map, map_filter_eq_bind]
    simp only [Function.comp_apply, eq_comm]
  simp only [Traffic.caused, Bus.allDeliveries, hdeliveries, hmessages]
  exact Multiset.bind_bind ..

theorem messagesOn_reactions (meaning : Topic → Multiset Message) :
    messagesOn t (Traffic.reactions (bus.allDeliveries meaning)) =
      ((bus.subscriptions : Multiset (Topic × FilterNode)).filter fun s => s.2.topic = t).bind
        fun s => (meaning s.1).bind fun m => ↑(s.2.outputs m) := by
  simp only [Traffic.reactions, Bus.allDeliveries, Delivery.published, FilterNode.published_pipe]
  rw [messagesOn_bind, Multiset.bind_filter, Multiset.bind_assoc, Multiset.bind_filter]
  refine Multiset.bind_congr fun s _ => ?_
  rw [Multiset.bind_map]
  split <;> simp_all

theorem Traffic.Balanced.delivered_eq (hbus : bus.Sound) {s : Traffic}
    (h : Traffic.Balanced bus feeds s) (hcomplete : s.IsComplete) :
    ↑s.bus.delivered = bus.allDeliveries fun t => messagesOn t ↑s.bus.published := by
  have hbalance := h.deliveries
  rw [hcomplete.tasks, Bus.isAtRest_iff.mp hcomplete.bus,
    caused_eq hbus ↑s.bus.published] at hbalance
  simpa [Traffic.due, Traffic.caused] using hbalance

/-- What a run has published in the end solves the equations of the graph. -/
theorem Traffic.Balanced.isMeaning (hbus : bus.Sound) {s : Traffic}
    (h : Traffic.Balanced bus feeds s) (hcomplete : s.IsComplete) :
    IsMeaning bus feeds fun t => messagesOn t ↑s.bus.published := by
  intro t
  have hbalance := h.publications
  rw [hcomplete.tasks, hcomplete.feeds, h.delivered_eq hbus hcomplete] at hbalance
  have hpublished : (s.bus.published : Multiset (Topic × Message)) = Traffic.fedPublications feeds +
      Traffic.reactions (bus.allDeliveries fun t => messagesOn t ↑s.bus.published) := by
    simpa [Traffic.pending, Traffic.fedPublications] using hbalance
  have hmessages := congrArg (messagesOn t) hpublished
  rwa [messagesOn_add, messagesOn_fedPublications, messagesOn_reactions] at hmessages

namespace Ruleset

/-- Whatever was compiled and whatever is put in at nodes, the equations of the graph have one
solution, and it is what every run of the dispatchers publishes that comes to its end, with a
delivery to each subscription of a topic for each message published there. Each node publishes in
order what it makes of a message. Every run can be brought to its end. -/
theorem dispatch_confluent (registry : Registry) (config : Config) (calls : List Call)
    (feeds : List (Node × Message)) :
    let bus := (after registry config calls).bus
    ∃ meaning : Topic → Multiset Message,
      (IsMeaning bus feeds meaning ∧ ∀ other, IsMeaning bus feeds other → other = meaning) ∧
      (∀ final, Traffic.Steps ⟨bus, feeds, []⟩ final → final.IsComplete →
        (∀ t, messagesOn t ↑final.bus.published = meaning t) ∧
        ↑final.bus.delivered = bus.allDeliveries meaning ∧
        (∀ f ∈ feeds,
          ((f.1.outputs f.2).map fun o => (f.1.topic, o)).Sublist final.bus.published) ∧
        ∀ d ∈ final.bus.delivered, ((d.subscriber.outputs d.message).map fun o =>
          (d.subscriber.topic, o)).Sublist final.bus.published) ∧
      ∀ state, Traffic.Steps ⟨bus, feeds, []⟩ state →
        ∃ final, Traffic.Steps state final ∧ final.IsComplete := by
  intro bus
  have hfresh : bus.Fresh := fresh_after registry config calls
  have hbus : bus.Sound := sound_after registry config calls
  have hbalanced {final : Traffic} (hrun : Traffic.Steps ⟨bus, feeds, []⟩ final) :
      Traffic.Balanced bus feeds final := (Traffic.balanced_start hfresh feeds).steps hbus hrun
  have hcompletes {state : Traffic} (hrun : Traffic.Steps ⟨bus, feeds, []⟩ state) :
      ∃ final, Traffic.Steps state final ∧ final.IsComplete :=
    Traffic.exists_complete (hbus.of_sameWiring (Traffic.Steps.sameWiring hrun))
  obtain ⟨model, hmodel, hend⟩ := hcompletes .refl
  have hmeaning := (hbalanced hmodel).isMeaning hbus hend
  have hagree {final : Traffic} (hrun : Traffic.Steps ⟨bus, feeds, []⟩ final)
      (hcomplete : final.IsComplete) (t : Topic) :
      messagesOn t ↑final.bus.published = messagesOn t ↑model.bus.published :=
    congrFun (((hbalanced hrun).isMeaning hbus hcomplete).unique hbus.acyclic hmeaning) t
  refine ⟨_, ⟨hmeaning, fun other hother => hother.unique hbus.acyclic hmeaning⟩, ?_,
    fun _ => hcompletes⟩
  intro final hrun hcomplete
  have hordered := (Traffic.ordered_start hfresh feeds).steps hbus.isOpen hrun
  refine ⟨hagree hrun hcomplete, ?_, fun f hf => ?_, fun d hd => ?_⟩
  · rw [(hbalanced hrun).delivered_eq hbus hcomplete]
    simp only [hagree hrun hcomplete]
  · rcases hordered.fed f hf with hwaits | hf
    · simp [hcomplete.feeds] at hwaits
    · rw [← Node.published_feed]
      exact hf.sublist hcomplete
  · rw [← FilterNode.published_pipe]
    exact (hordered.delivered d hd).sublist hcomplete

end Ruleset
end RuleGraph
