import Mathlib.Data.Multiset.Bind
import Mathlib.Tactic.Abel
import RuleGraph.Proofs.Graph.Subscriptions

/-!
# The queues of a bus

While messages are handed out, topics and subscribers stay as they are: a message that is published
waits for the subscribers of its topic if there are any, and one that is taken waits no more. In
every history the topics of the channels are different and nothing waits.
-/
namespace RuleGraph

namespace Bus

variable {σ : Type} {bus bus' : Bus σ} {topic : Topic} {m : Message}

def topics (bus : Bus σ) : List Topic := bus.channels.map Channel.topic

/-- The topics that have a queue, with their subscribers. -/
def wiring (bus : Bus σ) : List (Topic × List σ) :=
  bus.channels.map fun c => (c.topic, c.subscribers)

/-- The messages that wait, with the topics on which they were published. -/
def queued (bus : Bus σ) : Multiset (Topic × Message) :=
  ↑(bus.channels.flatMap fun c => c.waiting.map fun m => (c.topic, m))

/-- Two buses that differ in their messages at most. -/
structure SameWiring (bus bus' : Bus σ) : Prop where
  closed : bus'.closed = bus.closed
  wiring : bus'.wiring = bus.wiring

theorem SameWiring.refl (bus : Bus σ) : SameWiring bus bus := ⟨rfl, rfl⟩

theorem SameWiring.trans {bus'' : Bus σ} (h : SameWiring bus bus') (h' : SameWiring bus' bus'') :
    SameWiring bus bus'' := ⟨h'.closed.trans h.closed, h'.wiring.trans h.wiring⟩

theorem topics_eq (bus : Bus σ) : bus.topics = bus.wiring.map Prod.fst := by
  simp [topics, wiring, Function.comp_def]

theorem SameWiring.topics (h : SameWiring bus bus') : bus'.topics = bus.topics := by
  rw [topics_eq, topics_eq, h.wiring]

theorem subscribers_eq (bus : Bus σ) (topic : Topic) :
    bus.subscribers topic =
      if bus.closed then []
      else ((bus.wiring.find? fun c => c.1 = topic).map Prod.snd).getD [] := by
  rw [subscribers, channel?, wiring, List.find?_map, Option.map_map]
  rfl

theorem SameWiring.subscribers (h : SameWiring bus bus') (topic : Topic) :
    bus'.subscribers topic = bus.subscribers topic := by
  rw [subscribers_eq, subscribers_eq, h.closed, h.wiring]

theorem channel?_eq_some {c : Channel σ} (h : bus.channel? topic = some c) :
    c ∈ bus.channels ∧ c.topic = topic :=
  ⟨List.mem_of_find?_eq_some h, by simpa using List.find?_some h⟩

theorem isSome_channel? : (bus.channel? topic).isSome = true ↔ topic ∈ bus.topics := by
  simp [channel?, topics, List.find?_isSome]

theorem subscribers_of_notMem (h : topic ∉ bus.topics) : bus.subscribers topic = [] := by
  have hnone : bus.channel? topic = none := by
    simpa [← isSome_channel?] using h
  simp [subscribers, hnone]

/-- Where topics differ, one channel has the topic. -/
theorem exists_split (hnodup : bus.topics.Nodup) {c : Channel σ}
    (h : bus.channel? topic = some c) :
    ∃ before after, bus.channels = before ++ c :: after ∧
      (∀ d ∈ before, d.topic ≠ topic) ∧ ∀ d ∈ after, d.topic ≠ topic := by
  obtain ⟨hmem, rfl⟩ := channel?_eq_some h
  obtain ⟨before, after, hsplit⟩ := List.append_of_mem hmem
  rw [topics, hsplit, List.map_append, List.map_cons, List.nodup_append, List.nodup_cons] at hnodup
  obtain ⟨-, ⟨hafter, -⟩, hbefore⟩ := hnodup
  exact ⟨before, after, hsplit,
    fun d hd => hbefore _ (List.mem_map_of_mem hd) _ List.mem_cons_self,
    fun d hd heq => hafter (heq ▸ List.mem_map_of_mem hd)⟩

/-- Where topics differ, an update changes the one channel that has the topic. -/
theorem exists_update (hnodup : bus.topics.Nodup) {c : Channel σ}
    (h : bus.channel? topic = some c) :
    ∃ before after, bus.channels = before ++ c :: after ∧
      ∀ f, (bus.update topic f).channels = before ++ f c :: after := by
  obtain ⟨before, after, hsplit, hbefore, hafter⟩ := exists_split hnodup h
  refine ⟨before, after, hsplit, fun f => ?_⟩
  have hsame (ds : List (Channel σ)) (hne : ∀ d ∈ ds, d.topic ≠ topic) :
      (ds.map fun d => if d.topic = topic then f d else d) = ds := by
    rw [List.map_congr_left fun d hd => if_neg (hne d hd), List.map_id']
  simp only [update, hsplit, List.map_append, List.map_cons, if_pos (channel?_eq_some h).2]
  rw [hsame before hbefore, hsame after hafter]

@[simp] theorem published_update (bus : Bus σ) (topic : Topic) (f : Channel σ → Channel σ) :
    (bus.update topic f).published = bus.published := rfl

@[simp] theorem delivered_update (bus : Bus σ) (topic : Topic) (f : Channel σ → Channel σ) :
    (bus.update topic f).delivered = bus.delivered := rfl

theorem update_of_notMem (h : topic ∉ bus.topics) (f : Channel σ → Channel σ) :
    bus.update topic f = bus := by
  have hne : ∀ c ∈ bus.channels, ¬ c.topic = topic := fun c hc heq =>
    h (heq ▸ List.mem_map_of_mem hc)
  rw [update, List.map_congr_left fun c hc => if_neg (hne c hc), List.map_id']

/-! ### Waiting messages -/

theorem sameWiring_update (bus : Bus σ) (topic : Topic) (queue : List Message → List Message) :
    SameWiring bus (bus.update topic fun c => { c with waiting := queue c.waiting }) := by
  refine ⟨rfl, ?_⟩
  simp only [wiring, update, List.map_map]
  refine List.map_congr_left fun c _ => ?_
  simp only [Function.comp_apply]
  split <;> rfl

theorem sameWiring_take (bus : Bus σ) (topic : Topic) (rest : List Message) :
    SameWiring bus (bus.update topic fun c => { c with waiting := rest }) :=
  sameWiring_update bus topic fun _ => rest

/-- An update of a queue that puts in `new` and takes out `old` does so with all that waits. -/
theorem queued_update (hnodup : bus.topics.Nodup) {c : Channel σ}
    (h : bus.channel? topic = some c) (queue : List Message → List Message)
    (old new : Multiset Message)
    (hqueue : (queue c.waiting : Multiset Message) + old = c.waiting + new) :
    (bus.update topic fun c => { c with waiting := queue c.waiting }).queued +
        old.map (fun m => (topic, m)) =
      bus.queued + new.map fun m => (topic, m) := by
  obtain ⟨before, after, hsplit, hupdate⟩ := exists_update hnodup h
  have htopic := (channel?_eq_some h).2
  have hqueue := congrArg (Multiset.map fun m => (topic, m)) hqueue
  simp only [Multiset.map_add, Multiset.map_coe] at hqueue
  simp only [queued, hupdate, hsplit, List.flatMap_append, List.flatMap_cons, htopic,
    ← Multiset.coe_add]
  rw [add_assoc, add_right_comm, hqueue]
  abel

theorem queued_take (hnodup : bus.topics.Nodup) {rest : List Message} {subscribers : List σ}
    (h : bus.channel? topic = some ⟨topic, m :: rest, subscribers⟩) :
    bus.queued =
      (bus.update topic fun c => { c with waiting := rest }).queued + {(topic, m)} := by
  have htake := queued_update hnodup h (fun _ => rest) {m} 0 (by
    rw [add_zero, ← Multiset.cons_coe, ← Multiset.singleton_add, add_comm])
  simpa using htake.symm

/-! ### Publishing -/

theorem sameWiring_publish (bus : Bus σ) (topic : Topic) (m : Message) :
    SameWiring bus (bus.publish topic m) := by
  rw [publish]
  split
  · exact .refl bus
  · have hupdate := sameWiring_update bus topic (· ++ [m])
    exact ⟨hupdate.closed, hupdate.wiring⟩

/-- A message that is published waits if its topic has subscribers. -/
theorem queued_publish (hopen : bus.closed = false) (hnodup : bus.topics.Nodup) (topic : Topic)
    (m : Message) :
    (bus.publish topic m).queued =
      bus.queued + if topic ∈ bus.topics then {(topic, m)} else 0 := by
  have hupdate : (bus.publish topic m).queued =
      (bus.update topic fun c => { c with waiting := c.waiting ++ [m] }).queued := by
    simp [publish, hopen, queued]
  rw [hupdate]
  split
  · rename_i hmem
    obtain ⟨c, hc⟩ := Option.isSome_iff_exists.mp (isSome_channel?.mpr hmem)
    have hput := queued_update hnodup hc (· ++ [m]) 0 {m} (by
      rw [add_zero]
      exact (Multiset.coe_add c.waiting [m]).symm)
    simpa using hput
  · rename_i hmem
    rw [update_of_notMem hmem, add_zero]

theorem published_publish (hopen : bus.closed = false) (topic : Topic) (m : Message) :
    (bus.publish topic m).published = bus.published ++ [(topic, m)] := by
  simp [publish, hopen]

theorem delivered_publish (bus : Bus σ) (topic : Topic) (m : Message) :
    (bus.publish topic m).delivered = bus.delivered := by
  rw [publish]
  split <;> rfl

@[simp] theorem publishAll_nil (bus : Bus σ) : bus.publishAll [] = bus := rfl

@[simp] theorem publishAll_cons (bus : Bus σ) (p : Topic × Message) (ps : List (Topic × Message)) :
    bus.publishAll (p :: ps) = (bus.publish p.1 p.2).publishAll ps := rfl

theorem sameWiring_publishAll (bus : Bus σ) (ps : List (Topic × Message)) :
    SameWiring bus (bus.publishAll ps) := by
  induction ps generalizing bus with
  | nil => exact .refl bus
  | cons p ps ih => exact (sameWiring_publish bus p.1 p.2).trans (ih _)

/-- Of the messages that are published, those wait whose topics have subscribers. -/
theorem queued_publishAll (hopen : bus.closed = false) (hnodup : bus.topics.Nodup)
    (ps : List (Topic × Message)) :
    (bus.publishAll ps).queued = bus.queued + ↑(ps.filter fun p => p.1 ∈ bus.topics) := by
  induction ps generalizing bus with
  | nil => simp
  | cons p ps ih =>
    have hsame := sameWiring_publish bus p.1 p.2
    rw [publishAll_cons, ih (hsame.closed.trans hopen) (hsame.topics ▸ hnodup), hsame.topics,
      queued_publish hopen hnodup, List.filter_cons, add_assoc]
    split <;> simp_all

/-! ### Handing out -/

/-- What is recorded when a message is handed to a subscriber, apart from what is published. -/
def hand (handle : σ → Message → Handling) (topic : Topic) (m : Message) (bus : Bus σ)
    (subscriber : σ) : Bus σ :=
  let h := handle subscriber m
  note { bus with delivered := bus.delivered ++ [⟨topic, subscriber, m⟩] }
    (h.events ++ if h.panicked then [.handlerPanicked topic] else [])

theorem deliver_eq (handle : σ → Message → Handling) (topic : Topic) (m : Message) (bus : Bus σ)
    (subscriber : σ) :
    bus.deliver handle topic m subscriber =
      (bus.hand handle topic m subscriber).publishAll (handle subscriber m).published := rfl

@[simp] theorem published_hand (handle : σ → Message → Handling) (topic : Topic) (m : Message)
    (bus : Bus σ) (subscriber : σ) :
    (bus.hand handle topic m subscriber).published = bus.published := rfl

@[simp] theorem delivered_hand (handle : σ → Message → Handling) (topic : Topic) (m : Message)
    (bus : Bus σ) (subscriber : σ) :
    (bus.hand handle topic m subscriber).delivered =
      bus.delivered ++ [⟨topic, subscriber, m⟩] := rfl

@[simp] theorem queued_hand (handle : σ → Message → Handling) (topic : Topic) (m : Message)
    (bus : Bus σ) (subscriber : σ) :
    (bus.hand handle topic m subscriber).queued = bus.queued := rfl

theorem sameWiring_hand (handle : σ → Message → Handling) (topic : Topic) (m : Message)
    (bus : Bus σ) (subscriber : σ) : SameWiring bus (bus.hand handle topic m subscriber) :=
  ⟨rfl, rfl⟩

theorem sameWiring_deliver (handle : σ → Message → Handling) (topic : Topic) (m : Message)
    (bus : Bus σ) (subscriber : σ) : SameWiring bus (bus.deliver handle topic m subscriber) := by
  rw [deliver_eq]
  exact (sameWiring_hand handle topic m bus subscriber).trans (sameWiring_publishAll _ _)

/-- What a subscriber publishes on topics that have subscribers waits behind what waited. -/
theorem queued_deliver (hopen : bus.closed = false) (hnodup : bus.topics.Nodup)
    (handle : σ → Message → Handling) (topic : Topic) (m : Message) (subscriber : σ) :
    (bus.deliver handle topic m subscriber).queued =
      bus.queued + ↑((handle subscriber m).published.filter fun p => p.1 ∈ bus.topics) := by
  have hopen' : (bus.hand handle topic m subscriber).closed = false := hopen
  have hnodup' : (bus.hand handle topic m subscriber).topics.Nodup := hnodup
  rw [deliver_eq]
  exact queued_publishAll hopen' hnodup' _

theorem channel?_of_mem (hnodup : bus.topics.Nodup) {c : Channel σ} (h : c ∈ bus.channels) :
    bus.channel? c.topic = some c := by
  obtain ⟨d, hd⟩ : ∃ d, bus.channel? c.topic = some d :=
    Option.isSome_iff_exists.mp (isSome_channel?.mpr (List.mem_map_of_mem h))
  obtain ⟨hmem, htopic⟩ := channel?_eq_some hd
  rw [hd, List.inj_on_of_nodup_map hnodup hmem h htopic]

/-! ### Rest -/

theorem isAtRest_iff : bus.isAtRest = true ↔ bus.queued = 0 := by
  simp [isAtRest, queued, List.flatMap_eq_nil_iff]

theorem isAtRest_of_busy?_eq_none (h : bus.busy? = none) : bus.isAtRest = true := by
  simp only [busy?, Option.map_eq_none_iff, List.find?_eq_none] at h
  simpa [isAtRest] using h

/-- A busy topic has a next message. -/
theorem exists_next_of_busy? (hnodup : bus.topics.Nodup) (h : bus.busy? = some topic) :
    ∃ m rest subscribers, bus.channel? topic = some ⟨topic, m :: rest, subscribers⟩ := by
  obtain ⟨⟨_, waiting, subscribers⟩, hfound, rfl⟩ := Option.map_eq_some_iff.mp h
  have hbusy := List.find?_some hfound
  have hc := channel?_of_mem hnodup (List.mem_of_find?_eq_some hfound)
  cases waiting with
  | nil => simp at hbusy
  | cons m rest => exact ⟨m, rest, subscribers, hc⟩

theorem not_isAtRest_of_next {rest : List Message} {subscribers : List σ}
    (h : bus.channel? topic = some ⟨topic, m :: rest, subscribers⟩) : bus.isAtRest = false := by
  rw [Bool.eq_false_iff]
  intro hrest
  have hempty := List.all_eq_true.mp hrest _ (channel?_eq_some h).1
  simp at hempty

/-! ### Subscriptions -/

theorem subscriptions_eq (bus : Bus FilterNode) :
    bus.subscriptions = bus.wiring.flatMap fun c => c.2.map fun n => (c.1, n) := by
  simp [subscriptions, wiring, List.flatMap_map]

theorem SameWiring.subscriptions {bus bus' : Bus FilterNode} (h : SameWiring bus bus') :
    bus'.subscriptions = bus.subscriptions := by
  rw [subscriptions_eq, subscriptions_eq, h.wiring]

theorem SameWiring.edges {bus bus' : Bus FilterNode} (h : SameWiring bus bus') :
    bus'.edges = bus.edges := by
  rw [Bus.edges, Bus.edges, h.subscriptions]

theorem mem_edges_of_mem_subscribers {bus : Bus FilterNode} {n : FilterNode}
    (h : n ∈ bus.subscribers topic) : ⟨topic, n.topic⟩ ∈ bus.edges := by
  rw [subscribers] at h
  split at h
  · simp at h
  · cases hc : bus.channel? topic with
    | none => simp [hc] at h
    | some c =>
      obtain ⟨hmem, htopic⟩ := channel?_eq_some hc
      rw [hc] at h
      exact List.mem_map.mpr ⟨(topic, n), mem_subscriptions.mpr ⟨c, hmem, htopic, h⟩, rfl⟩

/-- The subscriptions to a topic are those of its subscribers. -/
theorem filter_subscriptions {bus : Bus FilterNode} (hopen : bus.closed = false)
    (hnodup : bus.topics.Nodup) (t : Topic) :
    (bus.subscriptions.filter fun s => s.1 = t) = (bus.subscribers t).map fun n => (t, n) := by
  have hothers (cs : List (Channel FilterNode)) (hne : ∀ c ∈ cs, c.topic ≠ t) :
      (cs.flatMap fun c => (c.subscribers.map fun n => (c.topic, n)).filter fun s => s.1 = t) =
        [] := by
    simpa [List.flatMap_eq_nil_iff] using fun c hc _ _ => hne c hc
  rw [subscriptions, List.filter_flatMap]
  cases hc : bus.channel? t with
  | none =>
    have hnone : t ∉ bus.topics := by simp [← isSome_channel?, hc]
    rw [subscribers_of_notMem hnone, hothers _ fun c hc heq => hnone (heq ▸ List.mem_map_of_mem hc)]
    rfl
  | some c =>
    obtain ⟨before, after, hsplit, hbefore, hafter⟩ := exists_split hnodup hc
    have htopic := (channel?_eq_some hc).2
    rw [hsplit, List.flatMap_append, List.flatMap_cons, hothers before hbefore,
      hothers after hafter]
    simp [subscribers, hopen, hc, htopic, List.filter_eq_self]

/-- A bus on which nothing was published so far, with one queue for each topic. -/
structure Fresh (bus : Bus FilterNode) : Prop where
  nodup : bus.topics.Nodup
  waiting : ∀ c ∈ bus.channels, c.waiting = []
  published : bus.published = []
  delivered : bus.delivered = []

theorem Fresh.queued {bus : Bus FilterNode} (h : bus.Fresh) : bus.queued = 0 := by
  simpa [Bus.queued, List.flatMap_eq_nil_iff] using h.waiting

/-- A subscriber adds a topic if its own is new. -/
theorem topics_join (bus : Bus σ) (topic : Topic) (n : σ) :
    (bus.join topic n).topics =
      if topic ∈ bus.topics then bus.topics else bus.topics ++ [topic] := by
  unfold join
  simp only [isSome_channel?]
  split
  · simp only [topics, update, List.map_map]
    refine List.map_congr_left fun c _ => ?_
    simp only [Function.comp_apply]
    split <;> rfl
  · simp [topics]

theorem nodup_topics_join (hnodup : bus.topics.Nodup) (topic : Topic) (n : σ) :
    (bus.join topic n).topics.Nodup := by
  rw [topics_join]
  split
  · exact hnodup
  · rename_i hnew
    rw [← List.concat_eq_append]
    exact hnodup.concat hnew

@[simp] theorem published_join (bus : Bus σ) (topic : Topic) (n : σ) :
    (bus.join topic n).published = bus.published := by
  unfold join
  split <;> rfl

@[simp] theorem delivered_join (bus : Bus σ) (topic : Topic) (n : σ) :
    (bus.join topic n).delivered = bus.delivered := by
  unfold join
  split <;> rfl

theorem Fresh.join {bus : Bus FilterNode} (h : bus.Fresh) (topic : Topic) (n : FilterNode) :
    (bus.join topic n).Fresh := by
  refine ⟨nodup_topics_join h.nodup topic n, fun c hc => ?_, by rw [published_join, h.published],
    by rw [delivered_join, h.delivered]⟩
  unfold Bus.join at hc
  split at hc
  · obtain ⟨d, hd, rfl⟩ := List.mem_map.mp hc
    split <;> exact h.waiting d hd
  · rcases List.mem_append.mp hc with hc | hc
    · exact h.waiting c hc
    · rw [List.mem_singleton.mp hc]

/-- A subscriber makes one subscription more. -/
theorem perm_subscriptions_join {bus : Bus FilterNode} (hnodup : bus.topics.Nodup) (topic : Topic)
    (n : FilterNode) :
    (bus.join topic n).subscriptions.Perm (bus.subscriptions ++ [(topic, n)]) := by
  unfold join
  split
  · rename_i hsome
    obtain ⟨c, hc⟩ := Option.isSome_iff_exists.mp hsome
    have htopic := (channel?_eq_some hc).2
    obtain ⟨before, after, hsplit, hupdate⟩ := exists_update hnodup hc
    simp only [subscriptions, hupdate, hsplit, List.flatMap_append, List.flatMap_cons,
      List.map_append, List.map_singleton, htopic, List.append_assoc]
    apply List.Perm.append_left
    apply List.Perm.append_left
    exact List.perm_append_comm
  · simp [subscriptions]

/-- An open bus with one queue for each topic, whose subscriptions make no cycle. -/
structure Sound (bus : Bus FilterNode) : Prop where
  isOpen : bus.closed = false
  nodup : bus.topics.Nodup
  acyclic : Acyclic bus.edges

theorem Sound.of_sameWiring {bus bus' : Bus FilterNode} (h : bus.Sound)
    (hsame : SameWiring bus bus') : bus'.Sound :=
  ⟨hsame.closed.trans h.isOpen, hsame.topics ▸ h.nodup, hsame.edges ▸ h.acyclic⟩

end Bus

namespace Ruleset

theorem fresh_new (registry : Registry) (config : Config) : (new registry config).bus.Fresh :=
  ⟨List.nodup_nil, by simp [new, Bus.empty], rfl, rfl⟩

theorem fresh_addRule {rs : Ruleset} (h : rs.bus.Fresh) (file : Path) (rule : Rule)
    (deps : List Path) : (rs.addRule file rule deps).2.bus.Fresh := by
  rcases addRule_cases rs file rule deps with
    ⟨e, made, -, heq⟩ | ⟨t, s, rs', result, hlays, -, heq⟩
  · rw [heq]
    exact h
  · have hkeep : ((rs.use s).connect t.wires).2.bus.Fresh :=
      connect_induction (P := fun rs => rs.bus.Fresh)
        (fun _ w _ h _ => h.join w.topic w.target) t.wires h
    rw [hlays.connected] at hkeep
    rw [heq]
    exact hkeep

/-- No history of calls puts a message on the bus, and each topic gets one queue. -/
theorem fresh_after (registry : Registry) (config : Config) (calls : List Call) :
    (after registry config calls).bus.Fresh :=
  after_induction (P := fun rs => rs.bus.Fresh) (fun _ _ hsame h => hsame.bus ▸ h)
    (fun _ file rule deps h => fresh_addRule h file rule deps) (fresh_new registry config) calls

/-- Connecting wires makes one subscription of each. -/
theorem perm_subscriptions_connect {rs rs' : Ruleset} {wires : List Wire} (hfresh : rs.bus.Fresh)
    (h : rs.connect wires = (.ok (), rs')) :
    rs'.bus.subscriptions.Perm
      (rs.bus.subscriptions ++ wires.map fun w => (w.topic, w.target)) := by
  induction wires generalizing rs with
  | nil =>
    cases h
    simp
  | cons w rest ih =>
    rcases connect_cons h with ⟨_, _, heq⟩ | ⟨threads, -, -, hrest⟩
    · cases heq
    · have hstep := Bus.perm_subscriptions_join hfresh.nodup w.topic w.target
      have hnext : (rs.wired w (rs.bus.join w.topic w.target) threads).bus.Fresh :=
        hfresh.join w.topic w.target
      have hrest := ih hnext hrest
      rw [List.map_cons, ← List.singleton_append, ← List.append_assoc]
      exact hrest.trans (hstep.append_right _)

theorem sound_after (registry : Registry) (config : Config) (calls : List Call) :
    (after registry config calls).bus.Sound :=
  have hwired := wired_after registry config calls
  ⟨hwired.isOpen, (fresh_after registry config calls).nodup, hwired.acyclic_bus⟩

end Ruleset
end RuleGraph
