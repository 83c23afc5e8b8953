import RuleGraph.Node.Echo
import RuleGraph.Node.TextFilter
import RuleGraph.Proofs.Graph.Identity
import RuleGraph.Proofs.Traffic.Meaning

/-!
# Where messages come from

Producers stamp what they publish with their own name, topic and rule, and filters hand these stamps
on with whatever they make of a message, however they react from one message to the next. What is
published, waits or is about to be delivered was put in at a node, or was made by a subscriber of
such a message. So a message tells which producer it comes from, and messages of this producer get
to the node that published it.
-/
namespace RuleGraph

/-! ### Filters that hand the stamps on -/

namespace Message

/-- A message that tells of the same producer as another. -/
structure SameOrigin (m m' : Message) : Prop where
  producer : m'.get? producerKey = m.get? producerKey
  topic : m'.get? producerTopicKey = m.get? producerTopicKey
  sourceRule : m'.get? sourceRuleKey = m.get? sourceRuleKey

theorem SameOrigin.refl (m : Message) : m.SameOrigin m := ⟨rfl, rfl, rfl⟩

theorem SameOrigin.trans {m m' m'' : Message} (h : m.SameOrigin m') (h' : m'.SameOrigin m'') :
    m.SameOrigin m'' :=
  ⟨h'.producer.trans h.producer, h'.topic.trans h.topic, h'.sourceRule.trans h.sourceRule⟩

theorem sameOrigin_withPayload (m : Message) (payload : Json) :
    m.SameOrigin (m.withPayload payload) := ⟨rfl, rfl, rfl⟩

/-- The name of the rule is none of the stamps that tell of the producer. -/
theorem sameOrigin_set_rule (m : Message) (value : Json) : m.SameOrigin (m.set ruleKey value) := by
  constructor
  · rw [get?_set, if_neg (by decide)]
  · rw [get?_set, if_neg (by decide)]
  · rw [get?_set, if_neg (by decide)]

end Message

namespace FilterNode

variable {n : FilterNode}

/-- The messages that the filter makes of one if it reacts in a given way. -/
def outputsOf (n : FilterNode) (m : Message) (answer : Reaction) : List Message :=
  { n with react := fun _ => answer }.outputs m

theorem published_answering (n : FilterNode) (answer : Reaction) (m : Message) :
    (n.answering answer m).published = (n.outputsOf m answer).map fun o => (n.topic, o) :=
  published_pipe { n with react := fun _ => answer } m

/-- The reaction keeps what a message tells of its producer, in all that the filter emits or lets
pass. -/
def KeepsOrigin (n : FilterNode) (m : Message) (answer : Reaction) : Prop :=
  ∀ o ∈ n.outputsOf m answer, m.SameOrigin o

/-- The filter is one of the types that come with the library, made from the node's parameters. -/
inductive IsBuiltin (n : FilterNode) : Prop
  | text (made : TextFilter.make n.params = .ok n.react)
  | echo (made : Echo.make n.params = .ok n.react)

theorem rule_of_mem_outputsOf {m o : Message} {answer : Reaction} (h : o ∈ n.outputsOf m answer) :
    o.get? Message.ruleKey = some (.string n.rule) := by
  obtain ⟨o', -, rfl⟩ := List.mem_map.mp h
  rw [Message.get?_set, if_pos rfl]

theorem keepsOrigin_of_reaction {m : Message} {answer : Reaction}
    (hemitted : ∀ o ∈ answer.emitted, m.SameOrigin o)
    (hcopy : ∀ matched copy, answer.verdict = .decided matched copy → m.SameOrigin copy) :
    n.KeepsOrigin m answer := by
  intro o hmade
  obtain ⟨o, ho, rfl⟩ := List.mem_map.mp hmade
  apply Message.SameOrigin.trans _ (Message.sameOrigin_set_rule o _)
  rcases List.mem_append.mp ho with ho | ho
  · exact hemitted o ho
  · cases hverdict : answer.verdict with
    | failed e => simp [hverdict] at ho
    | panicked => simp [hverdict] at ho
    | decided matched copy =>
      simp only [hverdict] at ho
      split at ho
      · rw [List.mem_singleton.mp ho]
        exact hcopy matched copy hverdict
      · simp at ho

theorem exists_of_make_text {params : Params} {react : Filter}
    (h : TextFilter.make params = .ok react) :
    ∃ pattern mode, react = TextFilter.filter pattern mode := by
  unfold TextFilter.make at h
  cases hraw : params.require "pattern" with
  | error e => simp [hraw, bind, Except.bind] at h
  | ok raw =>
    cases hpattern : Regex.compile? raw with
    | none => simp [hraw, hpattern, bind, Except.bind] at h
    | some pattern =>
      cases hmode : TextFilter.mode? (params.getD "mode" "match") with
      | none => simp [hraw, hpattern, hmode, bind, Except.bind] at h
      | some mode =>
        simp only [hraw, hpattern, hmode, bind, Except.bind, Except.ok.injEq] at h
        exact ⟨pattern, mode, h.symm⟩

/-- The built-in filters write nothing into a message but its payload. -/
theorem IsBuiltin.keepsOrigin (h : n.IsBuiltin) (m : Message) : n.KeepsOrigin m (n.react m) := by
  cases h with
  | echo made =>
    have hreact : n.react = Echo.filter (n.params.get? "prefix") := (Except.ok.inj made).symm
    apply keepsOrigin_of_reaction
    · intro o ho
      simp [hreact, Echo.filter] at ho
    · intro matched copy hverdict
      simp only [hreact, Echo.filter, Verdict.decided.injEq] at hverdict
      exact hverdict.2 ▸ .refl m
  | text made =>
    obtain ⟨pattern, mode, hreact⟩ := exists_of_make_text made
    apply keepsOrigin_of_reaction
    · intro o ho
      rw [hreact] at ho
      cases mode with
      | whole => simp [TextFilter.filter] at ho
      | extract =>
        obtain ⟨s, -, rfl⟩ := List.mem_map.mp ho
        exact Message.sameOrigin_withPayload m _
    · intro matched copy hverdict
      rw [hreact] at hverdict
      cases mode with
      | whole =>
        simp only [TextFilter.filter, Verdict.decided.injEq] at hverdict
        exact hverdict.2 ▸ .refl m
      | extract =>
        simp only [TextFilter.filter, Verdict.decided.injEq] at hverdict
        exact hverdict.2 ▸ .refl m

end FilterNode

/-! ### What messages are made of -/

namespace Bus

variable {σ : Type} {bus : Bus σ} {p : Topic × Message}

theorem mem_queued : p ∈ bus.queued ↔ ∃ c ∈ bus.channels, c.topic = p.1 ∧ p.2 ∈ c.waiting := by
  obtain ⟨topic, m⟩ := p
  simp only [queued, Multiset.mem_coe, List.mem_flatMap, List.mem_map, Prod.mk.injEq]
  constructor
  · rintro ⟨c, hc, m', hm, htopic, rfl⟩
    exact ⟨c, hc, htopic, hm⟩
  · rintro ⟨c, hc, htopic, hm⟩
    exact ⟨c, hc, m, hm, htopic, rfl⟩

/-- What is taken from a queue leaves nothing there that did not wait. -/
theorem queued_of_take {topic : Topic} {m : Message} {rest : List Message} {subscribers : List σ}
    (taken : bus.channel? topic = some ⟨topic, m :: rest, subscribers⟩)
    (h : p ∈ (bus.update topic fun c => { c with waiting := rest }).queued) : p ∈ bus.queued := by
  obtain ⟨_, hmem, htopic, hp⟩ := mem_queued.mp h
  obtain ⟨c, hc, rfl⟩ := List.mem_map.mp hmem
  split at hp
  · rename_i heq
    rw [if_pos heq] at htopic
    exact mem_queued.mpr ⟨_, (channel?_eq_some taken).1, heq.symm.trans htopic,
      List.mem_cons_of_mem m hp⟩
  · rename_i hne
    rw [if_neg hne] at htopic
    exact mem_queued.mpr ⟨c, hc, htopic, hp⟩

/-- What waits when a message was published waited before, or is this message. -/
theorem queued_of_publish {topic : Topic} {m : Message} (h : p ∈ (bus.publish topic m).queued) :
    p ∈ bus.queued ∨ p = (topic, m) := by
  unfold publish at h
  split at h
  · exact .inl h
  · obtain ⟨_, hmem, htopic, hp⟩ := mem_queued.mp h
    obtain ⟨c, hc, rfl⟩ := List.mem_map.mp hmem
    split at hp
    · rename_i heq
      rw [if_pos heq] at htopic
      rcases List.mem_append.mp hp with hp | hp
      · exact .inl (mem_queued.mpr ⟨c, hc, htopic, hp⟩)
      · exact .inr (Prod.ext (htopic.symm.trans heq) (List.mem_singleton.mp hp))
    · rename_i hne
      rw [if_neg hne] at htopic
      exact .inl (mem_queued.mpr ⟨c, hc, htopic, hp⟩)

theorem published_of_publish {topic : Topic} {m : Message}
    (h : p ∈ (bus.publish topic m).published) : p ∈ bus.published ∨ p = (topic, m) := by
  unfold publish at h
  split at h
  · exact .inl h
  · exact (List.mem_append.mp h).imp_right List.mem_singleton.mp

end Bus

/-- The messages that a thread is about to publish have a property, and so do those on their way to
subscribers. -/
structure Task.Holds (bus₀ : Bus FilterNode) (P : Topic × Message → Prop) (task : Task) : Prop where
  publications : ∀ p ∈ task.publications, P p
  deliveries : ∀ d ∈ task.deliveries,
    P (d.topic, d.message) ∧ (d.topic, d.subscriber) ∈ bus₀.subscriptions

namespace Traffic

/-- All messages that were published, wait, are at work or are still to be put in have a
property. -/
structure Holds (bus₀ : Bus FilterNode) (P : Topic × Message → Prop) (s : Traffic) : Prop where
  wiring : Bus.SameWiring bus₀ s.bus
  published : ∀ p ∈ s.bus.published, P p
  queued : ∀ p ∈ s.bus.queued, P p
  tasks : ∀ task ∈ s.tasks, task.Holds bus₀ P
  feeds : ∀ f ∈ s.feeds, ∀ p ∈ (f.1.feed f.2).published, P p

variable {bus₀ : Bus FilterNode} {P : Topic × Message → Prop}
  {answers : FilterNode → Message → Reaction → Prop} {s s' : Traffic}

/-- Every step keeps a property that subscribers hand on from each message to what they make of
it. -/
theorem Holds.step (h : Holds bus₀ P s) (hstep : Step answers s s')
    (hanswer : ∀ sub ∈ bus₀.subscriptions, ∀ m answer, P (sub.1, m) → answers sub.2 m answer →
      ∀ p ∈ (sub.2.answering answer m).published, P p) : Holds bus₀ P s' := by
  have hwiring := h.wiring.trans hstep.sameWiring
  have htasks := h.tasks
  cases hstep with
  | @feed bus node m before after tasks =>
    obtain ⟨hbefore, hafter⟩ := List.forall_mem_append.mp h.feeds
    obtain ⟨hfed, hafter⟩ := List.forall_mem_cons.mp hafter
    exact ⟨hwiring, h.published, h.queued, List.forall_mem_cons.mpr ⟨⟨hfed, by simp⟩, htasks⟩,
      List.forall_mem_append.mpr ⟨hbefore, hafter⟩⟩
  | @take bus feeds tasks topic m rest subscribers taken idle =>
    refine ⟨hwiring, h.published, fun p hp => h.queued p (Bus.queued_of_take taken hp),
      List.forall_mem_cons.mpr ⟨⟨by simp, fun d hd => ?_⟩, htasks⟩, h.feeds⟩
    obtain ⟨n, hn, rfl⟩ := List.mem_map.mp hd
    have hchannel := (Bus.channel?_eq_some taken).1
    refine ⟨h.queued _ (Bus.mem_queued.mpr ⟨_, hchannel, rfl, List.mem_cons_self⟩), ?_⟩
    rw [← h.wiring.subscriptions]
    exact Bus.mem_subscriptions.mpr ⟨_, hchannel, rfl, hn⟩
  | @call bus feeds before after dispatcher d ds answer answered =>
    obtain ⟨hbefore, hafter⟩ := List.forall_mem_append.mp htasks
    obtain ⟨htask, hafter⟩ := List.forall_mem_cons.mp hafter
    obtain ⟨⟨hmessage, hsub⟩, hds⟩ := List.forall_mem_cons.mp htask.deliveries
    have hmade := hanswer _ hsub d.message answer hmessage answered
    exact ⟨hwiring, h.published, h.queued,
      List.forall_mem_append.mpr ⟨hbefore, List.forall_mem_cons.mpr ⟨⟨hmade, hds⟩, hafter⟩⟩,
      h.feeds⟩
  | @publish bus feeds before after dispatcher p ps ds =>
    obtain ⟨hbefore, hafter⟩ := List.forall_mem_append.mp htasks
    obtain ⟨htask, hafter⟩ := List.forall_mem_cons.mp hafter
    obtain ⟨hp, hps⟩ := List.forall_mem_cons.mp htask.publications
    refine ⟨hwiring, fun q hq => ?_, fun q hq => ?_,
      List.forall_mem_append.mpr ⟨hbefore,
        List.forall_mem_cons.mpr ⟨⟨hps, htask.deliveries⟩, hafter⟩⟩, h.feeds⟩
    · rcases Bus.published_of_publish hq with hq | rfl
      · exact h.published q hq
      · exact hp
    · rcases Bus.queued_of_publish hq with hq | rfl
      · exact h.queued q hq
      · exact hp
  | @finish bus feeds before after dispatcher =>
    obtain ⟨hbefore, hafter⟩ := List.forall_mem_append.mp htasks
    exact ⟨hwiring, h.published, h.queued,
      List.forall_mem_append.mpr ⟨hbefore, (List.forall_mem_cons.mp hafter).2⟩, h.feeds⟩

/-- On a bus where nothing was published so far, what holds of all messages put in and is handed on
by subscribers holds of every message that is published in a run. -/
theorem of_mem_published (hfresh : bus₀.Fresh) {feeds : List (Node × Message)}
    (hfeed : ∀ f ∈ feeds, ∀ p ∈ (f.1.feed f.2).published, P p)
    (hanswer : ∀ sub ∈ bus₀.subscriptions, ∀ m answer, P (sub.1, m) → answers sub.2 m answer →
      ∀ p ∈ (sub.2.answering answer m).published, P p)
    (hrun : Relation.ReflTransGen (Step answers) ⟨bus₀, feeds, []⟩ s) {p : Topic × Message}
    (hp : p ∈ s.bus.published) : P p := by
  have hholds : Holds bus₀ P s := by
    clear hp
    induction hrun with
    | refl =>
      exact ⟨.refl bus₀, by simp [hfresh.published], by simp [hfresh.queued], by simp, hfeed⟩
    | tail _ hstep ih => exact ih.step hstep hanswer
  exact hholds.published p hp

end Traffic

/-- Over subscriptions, messages of the producer get to the node, which may be the producer. -/
inductive Bus.Carries (bus : Bus FilterNode) (p : ProducerNode) : Node → Prop
  | start : Carries bus p (.producer p)
  | next {n : Node} {f : FilterNode} (carries : Carries bus p n)
      (subscribed : (n.topic, f) ∈ bus.subscriptions) : Carries bus p (.filter f)

/-! ### Owners -/

namespace Workshop

variable {w : Workshop}

theorem Made.rule_eq {rule : String} {s s' : Supply} {links : List Link} {sections : List Section}
    (h : Made w rule s links sections s') : ∀ n ∈ Section.owned sections, n.rule = rule := by
  induction h with
  | nil => simp
  | filter _ _ _ ih =>
    intro n hn
    rcases List.mem_cons.mp hn with rfl | hn
    · rfl
    · exact ih n hn
  | call _ _ _ ih => exact ih

theorem MadeRule.rule_eq {rule : Rule} {s s' : Supply} {flow : Flow} {wires : List Wire}
    (h : MadeRule w rule s flow wires s') : ∀ n ∈ flow.nodes, n.rule = rule.name := by
  intro n hn
  cases h with
  | fragment _ links =>
    rw [nodes_fragment] at hn
    obtain ⟨f, hf, rfl⟩ := List.mem_map.mp hn
    exact links.rule_eq f hf
  | produced _ _ _ links =>
    rw [nodes_produced] at hn
    rcases List.mem_cons.mp hn with rfl | hn
    · rfl
    · obtain ⟨f, hf, rfl⟩ := List.mem_map.mp hn
      exact links.rule_eq f hf

end Workshop

namespace Ruleset

variable {rs rs' : Ruleset}

/-- Nodes know the rules that own them, and all subscribers are nodes of rules, or of a rule that
was broken off. -/
structure Owned (rs : Ruleset) (as : List Attempt) : Prop where
  rules : ∀ r ∈ rs.rules, ∀ n ∈ r.nodes, n.rule = r.name
  subscribers : ∀ sub ∈ rs.bus.subscriptions, .filter sub.2 ∈ rs.nodes ∨
    ∃ a ∈ as, a.BreaksOff ∧ .filter sub.2 ∈ a.built

theorem Owned.congr {as : List Attempt} (h : rs.Owned as) (hrules : rs'.rules = rs.rules)
    (hbus : rs'.bus = rs.bus) : rs'.Owned as := by
  have hnodes : rs'.nodes = rs.nodes := by rw [nodes, hrules, nodes]
  exact ⟨hrules ▸ h.rules, by rw [hbus, hnodes]; exact h.subscribers⟩

/-- The nodes of a rule whose wires are connected were built for it. -/
theorem Attempt.built_of_lays {a : Attempt} {t : Strand} {s : Supply}
    (h : a.rs.Lays a.file a.rule a.deps t s rs') : a.built = t.rule.nodes := by
  rw [built, h.named, h.absent, h.made.builtByRule_eq]
  rfl

/-- The subscriptions behind an attempt are those in front of it, with the wires of its rule that
are connected. -/
theorem Lays.perm_subscriptions {file : Path} {rule : Rule} {deps : List Path} {t : Strand}
    {s : Supply} (h : rs.Lays file rule deps t s rs') (hfresh : rs.bus.Fresh) :
    rs'.bus.subscriptions.Perm
      (rs.bus.subscriptions ++ t.wires.map fun w => (w.topic, w.target)) :=
  @perm_subscriptions_connect (rs.use s) rs' t.wires hfresh h.connected

theorem Owned.attempt {a : Attempt} {as : List Attempt} (h : a.rs.Owned as)
    (hgrounded : a.rs.Grounded) (hfresh : a.rs.bus.Fresh) : a.result.2.Owned (as ++ [a]) := by
  have hearlier {n : Node} : (∃ b ∈ as, b.BreaksOff ∧ n ∈ b.built) →
      ∃ b ∈ as ++ [a], b.BreaksOff ∧ n ∈ b.built :=
    fun ⟨b, hb, hbuilt⟩ => ⟨b, List.mem_append_left _ hb, hbuilt⟩
  rcases addRule_cases a.rs a.file a.rule a.deps with
    ⟨e, made, -, heq⟩ | ⟨t, s, rs', result, hlays, hending, heq⟩
  · rw [Attempt.result, heq]
    exact ⟨h.rules, fun sub hsub => (h.subscribers sub hsub).imp_right hearlier⟩
  · have hrules : rs'.rules = a.rs.rules := hlays.rules
    have hbreaks := Attempt.breaksOff_of_ending hending (congrArg Prod.fst heq)
    have hnodes : a.result.2.nodes =
        a.rs.nodes ++ if t.left.isEmpty then t.rule.nodes else [] := by
      rw [Attempt.result, heq, nodes_added, nodes, hrules, nodes, t.nodes_added]
    have hold : ∀ n ∈ a.rs.nodes, n ∈ a.result.2.nodes :=
      fun n hn => hnodes ▸ List.mem_append_left _ hn
    have hsubscriptions : a.result.2.bus.subscriptions = rs'.bus.subscriptions := by
      rw [Attempt.result, heq]
    constructor
    · intro r hr n hn
      rw [Attempt.result, heq] at hr
      rcases List.mem_append.mp hr with hr | hr
      · exact h.rules r (hrules ▸ hr) n hn
      · obtain ⟨-, rfl⟩ := Strand.mem_added.mp hr
        rw [hlays.rule_eq]
        exact hlays.made.rule_eq n hn
    · intro sub hsub
      rw [hsubscriptions] at hsub
      rcases List.mem_append.mp ((hlays.perm_subscriptions hfresh).mem_iff.mp hsub) with hsub | hsub
      · exact (h.subscribers sub hsub).imp (hold _) hearlier
      · obtain ⟨v, hv, rfl⟩ := List.mem_map.mp hsub
        have hends := (hlays.ends hgrounded).2 v (List.mem_append_left _ hv)
        rcases List.mem_append.mp hends.2 with hn | hn
        · exact .inl (hold _ hn)
        · by_cases hleft : t.left = []
          · exact .inl (hnodes ▸ List.mem_append_right _ (by simpa [hleft] using hn))
          · exact .inr ⟨a, List.mem_append_right _ List.mem_cons_self, hbreaks hleft,
              Attempt.built_of_lays hlays ▸ hn⟩

theorem owned_after (registry : Registry) (config : Config) (calls : List Call) :
    (after registry config calls).Owned ((new registry config).attemptsOf calls) := by
  refine (attempts_induction (P := fun as rs => rs.Numbered ∧ rs.Grounded ∧ rs.bus.Fresh ∧
    rs.Owned as) ?_ ?_ ?_ calls).2.2.2
  · rintro as rs rs' hsame ⟨hnumbered, hgrounded, hfresh, howned⟩
    exact ⟨hnumbered.congr hsame.next hsame.issued hsame.rules,
      hgrounded.congr hsame.rules hsame.downstream (Nat.le_of_eq hsame.issued.symm),
      hsame.bus ▸ hfresh, howned.congr hsame.rules hsame.bus⟩
  · rintro as a ⟨hnumbered, hgrounded, hfresh, howned⟩
    exact ⟨hnumbered.addRule a.file a.rule a.deps,
      hgrounded.addRule hnumbered a.file a.rule a.deps,
      fresh_addRule hfresh a.file a.rule a.deps, howned.attempt hgrounded hfresh⟩
  · exact ⟨numbered_after registry config [], grounded_after registry config [],
      fresh_after registry config [], by simp [new],
      by simp [new, Bus.empty, Bus.subscriptions]⟩

/-! ### The trace of a message -/

/-- The message names the rule that owns the node, and the type, the topic and the rule of a
producer whose messages get to the node. -/
structure Traced (rs : Ruleset) (n : Node) (m : Message) : Prop where
  owner : m.get? Message.ruleKey = some (.string n.rule) ∧
    ∀ r ∈ rs.rules, n ∈ r.nodes → n.rule = r.name
  source : ∃ r ∈ rs.roots, ∃ p, r.producer? = some p ∧
    m.get? Message.producerKey = some (.string p.type) ∧
    m.get? Message.producerTopicKey = some (.string p.topic.text) ∧
    m.get? Message.sourceRuleKey = some (.string r.name) ∧ rs.bus.Carries p n

theorem exists_producer_of_mem_roots {r : CompiledRule} (hr : r ∈ rs.roots) :
    r ∈ rs.rules ∧ ∃ p, r.producer? = some p ∧ r.first = .producer p ∧ .producer p ∈ r.nodes := by
  obtain ⟨hmem, hproducer⟩ := List.mem_filter.mp hr
  refine ⟨hmem, ?_⟩
  obtain ⟨name, file, flow⟩ := r
  cases flow with
  | fragment chain => cases hproducer
  | produced p chain => exact ⟨p, rfl, rfl, List.mem_cons_self⟩

/-- A producer stamps what it publishes with all that is told of it. -/
theorem traced_producer (howned : ∀ r ∈ rs.rules, ∀ n ∈ r.nodes, n.rule = r.name)
    {r : CompiledRule} {p : ProducerNode} (hr : r ∈ rs.roots) (hp : r.producer? = some p)
    (hmem : .producer p ∈ r.nodes) (m : Message) : rs.Traced (.producer p) (p.stamp m) := by
  have hrule : r ∈ rs.rules := (List.mem_filter.mp hr).1
  have hname : p.rule = r.name := howned r hrule _ hmem
  have hstamp (key : String) : (p.stamp m).get? key =
      if key = Message.producerTopicKey then some (.string p.topic.text)
      else if key = Message.producerKey then some (.string p.type)
      else if key = Message.sourceRuleKey then some (.string r.name)
      else if key = Message.ruleKey then some (.string r.name) else m.get? key := by
    simp only [ProducerNode.stamp, Message.stamp, List.foldl_cons, List.foldl_nil,
      Message.get?_set, hname]
  refine ⟨⟨?_, fun r' hr' hn => howned r' hr' _ hn⟩, r, hr, p, hp, ?_, ?_, ?_, .start⟩
  · rw [hstamp, Node.rule, hname]
    rfl
  · rw [hstamp]
    rfl
  · rw [hstamp]
    rfl
  · rw [hstamp]
    rfl

/-- What a filter makes of a message that is traced to a node comes from the same producer. -/
theorem traced_filter (howned : ∀ r ∈ rs.rules, ∀ n ∈ r.nodes, n.rule = r.name) {n : Node}
    {f : FilterNode} {m o : Message} {answer : Reaction} (htraced : rs.Traced n m)
    (hsub : (n.topic, f) ∈ rs.bus.subscriptions) (hkeeps : f.KeepsOrigin m answer)
    (ho : o ∈ f.outputsOf m answer) : rs.Traced (.filter f) o := by
  obtain ⟨r, hr, p, hp, hproducer, htopic, hrule, hcarries⟩ := htraced.source
  have hsame := hkeeps o ho
  exact ⟨⟨FilterNode.rule_of_mem_outputsOf ho, fun r' hr' hn => howned r' hr' _ hn⟩,
    r, hr, p, hp, hsame.producer.trans hproducer, hsame.topic.trans htopic,
    hsame.sourceRule.trans hrule, .next hcarries hsub⟩

/-- Where the numbers of all nodes that were built are different, a topic belongs to one of them. -/
theorem eq_of_topic_builtBy {registry : Registry} {config : Config} {calls : List Call}
    (hroom : (after registry config calls).issued ≤ NodeId.room) {n n' : Node}
    (hn : n ∈ (new registry config).builtBy calls) (hn' : n' ∈ (new registry config).builtBy calls)
    (htopic : n.topic = n'.topic) : n = n' := by
  have hnodup : (((new registry config).builtBy calls).map Node.id).Nodup :=
    map_id_builtBy registry config calls ▸ NodeId.nodup_map_nth hroom
  rw [n.topic_eq, n'.topic_eq] at htopic
  exact List.inj_on_of_nodup_map hnodup hn hn' (Topic.ofNode_inj htopic).2

theorem mem_builtBy_of_mem_nodes {registry : Registry} {config : Config} {calls : List Call}
    {n : Node} (hn : n ∈ (after registry config calls).nodes) :
    n ∈ (new registry config).builtBy calls :=
  (perm_builtBy registry config calls).mem_iff.mp (List.mem_append_left _ hn)

/-- Who is subscribed was built, for a rule that is there unless one was broken off. -/
theorem built_of_subscribed {registry : Registry} {config : Config} {calls : List Call}
    {sub : Topic × FilterNode} (hsub : sub ∈ (after registry config calls).bus.subscriptions) :
    .filter sub.2 ∈ (new registry config).builtBy calls ∧
      ((∀ a ∈ (new registry config).attemptsOf calls, ¬a.BreaksOff) →
        .filter sub.2 ∈ (after registry config calls).nodes) := by
  rcases (owned_after registry config calls).subscribers sub hsub with hn | ⟨a, ha, hbreaks, hn⟩
  · exact ⟨mem_builtBy_of_mem_nodes hn, fun _ => hn⟩
  · exact ⟨List.mem_flatMap.mpr ⟨a, ha, hn⟩, fun hnone => absurd hbreaks (hnone a ha)⟩

/-- Whatever was compiled, if messages are put in at producers only and filters, each time that they
are called, keep what a message tells of its producer, then every message that is published in any
run names the rule of the node that published it, and one producer whose messages get to this node.
It is a node of a rule, unless a rule was broken off. As long as the numbers of nodes are different,
there is but one node with the topic that the message was published on. -/
theorem published_traced (registry : Registry) (config : Config) (calls : List Call)
    (feeds : List (Node × Message))
    (hfeeds : ∀ f ∈ feeds, ∃ r ∈ (after registry config calls).roots, f.1 = r.first)
    (answers : FilterNode → Message → Reaction → Prop)
    (hanswers : ∀ sub ∈ (after registry config calls).bus.subscriptions, ∀ m answer,
      answers sub.2 m answer →
        (sub.2.IsBuiltin ∧ answer = sub.2.react m) ∨ sub.2.KeepsOrigin m answer)
    (state : Traffic)
    (hrun : Relation.ReflTransGen (Traffic.Step answers)
      ⟨(after registry config calls).bus, feeds, []⟩ state) :
    let rs := after registry config calls
    let built := (new registry config).builtBy calls
    (∀ n ∈ rs.nodes, n ∈ built) ∧
    ∀ t m, (t, m) ∈ state.bus.published →
      (∃ n ∈ built, n.topic = t ∧ rs.Traced n m ∧
        ((∀ a ∈ (new registry config).attemptsOf calls, ¬a.BreaksOff) → n ∈ rs.nodes)) ∧
      (rs.issued ≤ 2 ^ 32 → ∀ n ∈ built, n.topic = t → rs.Traced n m) := by
  intro rs built
  have howned : rs.Owned _ := owned_after registry config calls
  refine ⟨fun n hn => mem_builtBy_of_mem_nodes hn, fun t m hpublished => ?_⟩
  have htraced : ∃ n ∈ built, n.topic = t ∧ rs.Traced n m ∧
      ((∀ a ∈ (new registry config).attemptsOf calls, ¬a.BreaksOff) → n ∈ rs.nodes) := by
    refine Traffic.of_mem_published (P := fun p => ∃ n ∈ built, n.topic = p.1 ∧
      rs.Traced n p.2 ∧ ((∀ a ∈ (new registry config).attemptsOf calls, ¬a.BreaksOff) →
        n ∈ rs.nodes)) (fresh_after registry config calls) ?_ ?_ hrun hpublished
    · intro f hf q hq
      obtain ⟨r, hr, hfirst⟩ := hfeeds f hf
      obtain ⟨hrule, p, hp, hproducer, hmem⟩ := exists_producer_of_mem_roots hr
      rw [hfirst, hproducer] at hq
      obtain rfl := List.mem_singleton.mp hq
      have hn : .producer p ∈ rs.nodes := List.mem_flatMap.mpr ⟨r, hrule, hmem⟩
      exact ⟨.producer p, mem_builtBy_of_mem_nodes hn, rfl,
        traced_producer howned.rules hr hp hmem f.2, fun _ => hn⟩
    · rintro ⟨topic, f⟩ hsub m answer ⟨n, -, htopic, hm, -⟩ hanswer q hq
      obtain rfl : n.topic = topic := htopic
      have hkeeps : f.KeepsOrigin m answer := by
        rcases hanswers _ hsub m answer hanswer with ⟨hbuiltin, rfl⟩ | hkeeps
        · exact hbuiltin.keepsOrigin m
        · exact hkeeps
      rw [FilterNode.published_answering] at hq
      obtain ⟨o, ho, rfl⟩ := List.mem_map.mp hq
      obtain ⟨hbuilt, hunbroken⟩ := built_of_subscribed hsub
      exact ⟨.filter f, hbuilt, rfl, traced_filter howned.rules hm hsub hkeeps ho, hunbroken⟩
  refine ⟨htraced, fun hroom n hn htopic => ?_⟩
  obtain ⟨n', hn', htopic', hm, -⟩ := htraced
  rw [eq_of_topic_builtBy hroom hn hn' (htopic.trans htopic'.symm)]
  exact hm

/-- A message of a producer is published by the filter of a called rule, under the name of this. -/
theorem published_traced_called :
    let registry :=
      (Registry.empty.addProducer "source" fun _ => .ok ⟨0, fun _ => .finish⟩).addFilter
        Echo.typeName Echo.make
    let called : Rule := ⟨"called", ⟨1, 1⟩, .fragment (.filter "echo" [] false) []⟩
    let calling : Rule := ⟨"calling", ⟨2, 1⟩, .produced ⟨"source", []⟩ [.call "called"]⟩
    let calls : List Call := [called, calling].map fun r => .addRule ⟨"m"⟩ r []
    let rs := after registry .empty calls
    ∃ feeds state, (∀ f ∈ feeds, ∃ r ∈ rs.roots, f.1 = r.first) ∧
      (∀ sub ∈ rs.bus.subscriptions, ∀ m answer, Traffic.Reacts sub.2 m answer →
        (sub.2.IsBuiltin ∧ answer = sub.2.react m) ∨ sub.2.KeepsOrigin m answer) ∧
      Traffic.Steps ⟨rs.bus, feeds, []⟩ state ∧
      ∃ m n, (⟨"echo:0"⟩, m) ∈ state.bus.published ∧ n.topic = ⟨"echo:0"⟩ ∧ rs.Traced n m := by
  intro registry called calling calls rs
  let echo : FilterNode := ⟨⟨0⟩, "echo", "called", ⟨[]⟩, false, Echo.filter none⟩
  let source : ProducerNode := ⟨⟨1⟩, "source", "calling", ⟨[]⟩, ⟨0, fun _ => .finish⟩⟩
  let m : Message := .ofPayload (.string "x")
  have hroots : rs.roots = [⟨"calling", ⟨"m"⟩, .produced source (some ⟨[], echo, echo⟩)⟩] := by
    simp only [rs, calls, called, calling, registry, source, echo]
    cbv
  have hbus : rs.bus = ⟨[⟨source.topic, [], [echo]⟩], false, [], [], []⟩ := by
    simp only [rs, calls, called, calling, registry, source, echo]
    cbv
  have hfeeds : ∀ f ∈ [(Node.producer source, m)], ∃ r ∈ rs.roots, f.1 = r.first := by
    rw [hroots]
    simp [CompiledRule.first, Flow.first]
  have hfilters : ∀ sub ∈ rs.bus.subscriptions, ∀ m answer, Traffic.Reacts sub.2 m answer →
      (sub.2.IsBuiltin ∧ answer = sub.2.react m) ∨ sub.2.KeepsOrigin m answer := by
    intro sub hsub m answer hanswer
    obtain rfl : sub = (source.topic, echo) := by simpa [hbus, Bus.subscriptions] using hsub
    exact .inl ⟨.echo rfl, hanswer⟩
  obtain ⟨state, hrun, o, ho⟩ : ∃ state, Traffic.Steps ⟨rs.bus, [(.producer source, m)], []⟩ state ∧
      ∃ o, (⟨"echo:0"⟩, o) ∈ state.bus.published := by
    let sent := source.stamp m
    let idle : Bus FilterNode := ⟨[⟨source.topic, [], [echo]⟩], false, [], [], []⟩
    let busy : Bus FilterNode :=
      ⟨[⟨source.topic, [sent], [echo]⟩], false, [(source.topic, sent)], [], []⟩
    have hput : Traffic.Step Traffic.Reacts ⟨idle, [(.producer source, m)], []⟩
        ⟨idle, [], [⟨none, [(source.topic, sent)], []⟩]⟩ :=
      @Traffic.Step.feed Traffic.Reacts idle (.producer source) m [] [] []
    have hqueued : idle.publish source.topic sent = busy := by
      simp [Bus.publish, Bus.update, idle, busy]
    have hqueue :=
      @Traffic.Step.publish Traffic.Reacts idle [] [] [] none (source.topic, sent) [] []
    have htaken : busy.channel? source.topic = some ⟨source.topic, [sent], [echo]⟩ := by
      simp [Bus.channel?, busy]
    have htake := @Traffic.Step.take Traffic.Reacts busy [] [⟨none, [], []⟩] _ _ _ _ htaken
      (by simp)
    rw [hqueued] at hqueue
    have hpipe := ((Relation.ReflTransGen.single hput).tail hqueue).tail htake
      |>.tail (.call [] rfl)
    have htopic : echo.topic = ⟨"echo:0"⟩ := by decide
    rw [hbus]
    exact ⟨_, hpipe.tail (.publish []), echo.stamp sent,
      htopic ▸ List.mem_append_right _ (List.mem_singleton.mpr rfl)⟩
  obtain ⟨⟨n, -, htopic, htraced, -⟩, -⟩ :=
    (published_traced registry .empty calls _ hfeeds _ hfilters state hrun).2 _ o ho
  exact ⟨_, state, hfeeds, hfilters, hrun, o, n, ho, htopic, htraced⟩

end Ruleset
end RuleGraph
