import RuleGraph.Proofs.Program.Admission
import RuleGraph.Proofs.Traffic.Joints
import RuleGraph.Proofs.Traffic.Origin

/-!
# Splicing

A link of a rule becomes a node, or stands for the chain of a rule that is called. Each one is
joined to the next, from where it is left to where that one is entered. So a filter that no rule
begins with hears of one topic only, that of the link in front of it, whatever other rules are
there. The joints of rules that were broken off lead to where rules begin, or to nodes that belong
to no rule.
-/
namespace RuleGraph

/-- What a link of a rule became. -/
inductive Segment
  | node (n : Node)
  | call (callee : CompiledRule)

namespace Segment

def entry : Segment → Node
  | .node n => n
  | .call callee => callee.first

def exit : Segment → Node
  | .node n => n
  | .call callee => callee.last

def made? : Segment → Option Node
  | .node n => some n
  | .call _ => none

/-- The topic on which each segment is left, with the node by which the next one is entered. -/
def joints (segments : List Segment) : List (Topic × Node) :=
  (segments.zip segments.tail).map fun p => (p.1.exit.topic, p.2.entry)

variable {segments front back : List Segment} {s t : Segment} {edges : List Edge}

@[simp] theorem joints_cons_cons (s t : Segment) (rest : List Segment) :
    joints (s :: t :: rest) = (s.exit.topic, t.entry) :: joints (t :: rest) := rfl

theorem joints_append (front : List Segment) (s t : Segment) (back : List Segment) :
    joints (front ++ s :: t :: back) =
      joints (front ++ [s]) ++ (s.exit.topic, t.entry) :: joints (t :: back) := by
  induction front with
  | nil => rfl
  | cons u front ih => cases front <;> simp_all

theorem joints_subset (front : List Segment) (s : Segment) (back : List Segment) :
    joints (s :: back) ⊆ joints (front ++ s :: back) := by
  induction front with
  | nil => exact List.Subset.refl _
  | cons u front ih =>
    cases front with
    | nil => exact List.subset_cons_of_subset _ ih
    | cons v front => exact List.subset_cons_of_subset _ ih

theorem exists_of_mem_joints {j : Topic × Node} (h : j ∈ joints segments) :
    ∃ t ∈ segments.tail, t.entry = j.2 := by
  obtain ⟨p, hp, rfl⟩ := List.mem_map.mp h
  exact ⟨p.2, (List.of_mem_zip hp).2, rfl⟩

/-- Along the joints a walk leads from the first of some segments through all of them. -/
theorem leads_of_joints (hthrough : ∀ u ∈ s :: segments, Leads edges u.entry.topic u.exit.topic)
    (hjoints : ∀ j ∈ joints (s :: segments), (⟨j.1, j.2.topic⟩ : Edge) ∈ edges)
    (ht : t ∈ s :: segments) : Leads edges s.entry.topic t.exit.topic := by
  induction segments generalizing s with
  | nil => exact List.mem_singleton.mp ht ▸ hthrough s List.mem_cons_self
  | cons u rest ih =>
    obtain ⟨hs, hrest⟩ := List.forall_mem_cons.mp hthrough
    obtain ⟨hjoint, hothers⟩ := List.forall_mem_cons.mp hjoints
    rcases List.mem_cons.mp ht with rfl | ht
    · exact hs
    · exact hs.trans (.step hjoint (ih hrest hothers ht))

end Segment

namespace Ruleset

/-- What a link of a rule becomes in a ruleset: a node that is made for it, or a fragment that it
may call. -/
inductive Becomes (rs : Ruleset) (file : Path) (rule : String) (deps : List Path) :
    ProducerDecl ⊕ Link → Segment → Prop
  | producer {decl : ProducerDecl} {factory : ProducerFactory} {program : Producer} (id : NodeId)
      (known : rs.registry.producer? decl.name = some factory)
      (accepted : factory (rs.config.nodeParams decl.name decl.params) = .ok program) :
      Becomes rs file rule deps (.inl decl) (.node (.producer
        ⟨id, decl.name, rule, rs.config.nodeParams decl.name decl.params, program⟩))
  | filter {type : String} {written : List Param} {negated : Bool} {factory : FilterFactory}
      {react : Filter} (id : NodeId) (known : rs.registry.filter? type = some factory)
      (accepted : factory (rs.config.nodeParams type written) = .ok react) :
      Becomes rs file rule deps (.inr (.filter type written negated)) (.node (.filter
        ⟨id, type, rule, rs.config.nodeParams type written, negated, react⟩))
  | call {name : String} {callee : CompiledRule} {chain : Chain}
      (visible : rs.callee? file deps name = some callee)
      (fragment : callee.flow = .fragment chain) :
      Becomes rs file rule deps (.inr (.call name)) (.call callee)

end Ruleset

/-- The producer, if there is one, and the chain. -/
def RuleBody.links (body : RuleBody) : List (ProducerDecl ⊕ Link) :=
  body.producer?.toList.map .inl ++ body.chain.map .inr

namespace Ruleset

/-- A rule that consists of what its links became. -/
structure Splices (rs : Ruleset) (body : RuleBody) (deps : List Path) (r : CompiledRule)
    (segments : List Segment) : Prop where
  links : List.Forall₂ (rs.Becomes r.file r.name deps) body.links segments
  nodes : r.nodes = segments.filterMap Segment.made?
  first : segments.head?.map Segment.entry = some r.first
  last : segments.getLast?.map Segment.exit = some r.last
  producer : r.hasProducer = body.producer?.isSome

variable {rs rs' : Ruleset} {file : Path} {rule : Rule} {deps : List Path}
  {name : String} {sections : List Section} {link : ProducerDecl ⊕ Link} {segment : Segment}
  {segments : List Segment} {layout : List (CompiledRule × List Segment)}
  {strays : List (Topic × Node)}

/-! ### What is built -/

/-- A section of a chain and a segment with the same nodes. -/
structure Shows (s : Section) (t : Segment) : Prop where
  entry : t.entry = .filter s.first
  exit : t.exit = .filter s.last
  made : t.made? = s.own?.map .filter

theorem exists_segments {s s' : Supply} {links : List Link}
    (h : (rs.workshop file deps).Made name s links sections s') :
    ∃ segments, List.Forall₂ (rs.Becomes file name deps) (links.map .inr) segments ∧
      List.Forall₂ Shows sections segments := by
  induction h with
  | nil => exact ⟨[], .nil, .nil⟩
  | @filter s _ _ _ _ _ _ _ _ known accepted _ ih =>
    obtain ⟨segments, hlinks, hshows⟩ := ih
    exact ⟨_, .cons (.filter s.next known accepted) hlinks, .cons ⟨rfl, rfl, rfl⟩ hshows⟩
  | @call _ _ _ callee _ _ _ visible fragment _ ih =>
    obtain ⟨segments, hlinks, hshows⟩ := ih
    have hfirst : callee.first = .filter _ := congrArg Flow.first fragment
    have hlast : callee.last = .filter _ := congrArg Flow.last fragment
    exact ⟨_, .cons (.call visible fragment) hlinks, .cons ⟨hfirst, hlast, rfl⟩ hshows⟩

theorem filterMap_made (h : List.Forall₂ Shows sections segments) :
    segments.filterMap Segment.made? = (Section.owned sections).map .filter := by
  induction h with
  | nil => rfl
  | @cons s t _ _ hst _ ih =>
    cases s with
    | filter n => simp [hst.made, Section.own?, ih]
    | call => simp [hst.made, Section.own?, ih]

theorem getLast_exit (h : List.Forall₂ Shows sections segments) :
    segments.getLast?.map Segment.exit = sections.getLast?.map fun s => .filter s.last := by
  have hmap : segments.map Segment.exit = sections.map fun s => .filter s.last := by
    induction h with
    | nil => rfl
    | cons hst _ ih => simp [hst.exit, ih]
  rw [← List.getLast?_map, hmap, List.getLast?_map]

/-- The wires of sections are the joints of the segments, behind any one that is left on the
topic. -/
theorem map_wires (h : List.Forall₂ Shows sections segments) {head : Segment} {topic : Topic}
    (hhead : head.exit.topic = topic) :
    ((Section.wires topic sections).map fun w => (w.topic, Node.filter w.target)) =
      Segment.joints (head :: segments) := by
  induction h generalizing head topic with
  | nil => rfl
  | @cons s t _ _ hst _ ih =>
    have hexit : t.exit.topic = s.last.topic := congrArg Node.topic hst.exit
    rw [Section.wires, List.map_cons, ih hexit, Segment.joints_cons_cons, hhead, hst.entry]

theorem exists_splices {s s' : Supply} {flow : Flow} {wires : List Wire}
    (h : (rs.workshop file deps).MadeRule rule s flow wires s') :
    ∃ segments, rs.Splices rule.body deps ⟨rule.name, file, flow⟩ segments ∧
      (wires.map fun w => (w.topic, Node.filter w.target)) = Segment.joints segments := by
  have hproducer := isSome_producer?_of_madeRule h
  cases h with
  | @fragment first rest head sections _ body links =>
    obtain ⟨segments, hlinks, hshows⟩ := exists_segments links
    obtain ⟨t, segments, hhead, htail, rfl⟩ := List.forall₂_cons_left_iff.mp hshows
    refine ⟨t :: segments, ⟨?_, ?_, ?_, ?_, hproducer⟩, map_wires htail ?_⟩
    · rw [body]
      exact hlinks
    · exact (filterMap_made hshows).symm
    · exact congrArg some hhead.entry
    · rw [getLast_exit hshows, List.getLast?_eq_some_getLast (List.cons_ne_nil _ _)]
      rfl
    · exact congrArg Node.topic hhead.exit
  | @produced decl chain factory program sections _ body known accepted links =>
    obtain ⟨segments, hlinks, hshows⟩ := exists_segments links
    let producer : ProducerNode :=
      ⟨s.next, decl.name, rule.name, rs.config.nodeParams decl.name decl.params, program⟩
    refine ⟨.node (.producer producer) :: segments, ⟨?_, ?_, rfl, ?_, hproducer⟩,
      map_wires hshows rfl⟩
    · rw [body]
      exact .cons (.producer s.next known accepted) hlinks
    · refine (Workshop.MadeRule.nodes_produced _ sections).trans ?_
      rw [← filterMap_made hshows]
      rfl
    · cases hshows with
      | nil => rfl
      | @cons head t sections segments hhead htail =>
        rw [List.getLast?_cons_cons, getLast_exit (.cons hhead htail),
          List.getLast?_eq_some_getLast (List.cons_ne_nil _ _)]
        rfl

/-! ### Histories -/

/-- All rules with what their links became, and their joints, which are all subscriptions but for
some strays. From where a rule is entered a walk leads to where it is left. -/
structure Spliced (rs : Ruleset) (layout : List (CompiledRule × List Segment))
    (strays : List (Topic × Node)) : Prop where
  rules : layout.map Prod.fst = rs.rules
  splices : ∀ p ∈ layout, ∃ body deps, rs.Splices body deps p.1 p.2
  subscriptions : (rs.bus.subscriptions.map fun s => (s.1, Node.filter s.2)).Perm
    ((layout.flatMap fun p => Segment.joints p.2) ++ strays)
  through : ∀ r ∈ rs.rules, Leads rs.downstream r.first.topic r.last.topic

/-- A rule that is found is found in the ruleset that has more rules as well. -/
theorem callee?_mono (hrules : rs.rules <+: rs'.rules) {callee : CompiledRule}
    (h : rs.callee? file deps name = some callee) : rs'.callee? file deps name = some callee := by
  obtain ⟨more, hmore⟩ := hrules
  rw [callee?, Option.filter_eq_some_iff, rule?] at h ⊢
  rw [← hmore, List.find?_append, h.1, Option.some_or]
  exact ⟨rfl, h.2⟩

theorem Becomes.mono (h : rs.Becomes file name deps link segment)
    (hregistry : rs'.registry = rs.registry) (hconfig : rs'.config = rs.config)
    (hrules : rs.rules <+: rs'.rules) : rs'.Becomes file name deps link segment := by
  cases h with
  | producer id known accepted =>
    rw [← hconfig] at accepted ⊢
    exact .producer id (hregistry ▸ known) accepted
  | filter id known accepted =>
    rw [← hconfig] at accepted ⊢
    exact .filter id (hregistry ▸ known) accepted
  | call visible fragment => exact .call (callee?_mono hrules visible) fragment

theorem Splices.mono {body : RuleBody} {r : CompiledRule} (h : rs.Splices body deps r segments)
    (hregistry : rs'.registry = rs.registry) (hconfig : rs'.config = rs.config)
    (hrules : rs.rules <+: rs'.rules) : rs'.Splices body deps r segments :=
  ⟨h.links.imp fun _ _ hlink => hlink.mono hregistry hconfig hrules, h.nodes, h.first, h.last,
    h.producer⟩

theorem Splices.mem_of_call {body : RuleBody} {r callee : CompiledRule}
    (h : rs.Splices body deps r segments) (hcall : .call callee ∈ segments) :
    callee ∈ rs.rules := by
  obtain ⟨link, -, hlink⟩ := exists_of_forall₂_right h.links hcall
  cases hlink with
  | call visible => exact (callee?_eq_some visible).1

theorem Splices.mem_nodes {body : RuleBody} {r : CompiledRule} {n : Node}
    (h : rs.Splices body deps r segments) : n ∈ r.nodes ↔ .node n ∈ segments := by
  rw [h.nodes, List.mem_filterMap]
  constructor
  · rintro ⟨s, hs, hmade⟩
    cases s with
    | node m => exact Option.some.inj hmade ▸ hs
    | call => cases hmade
  · exact fun hn => ⟨.node n, hn, rfl⟩

/-- A walk leads through each segment. -/
theorem Splices.leads_segment {body : RuleBody} {r : CompiledRule} {edges : List Edge}
    (h : rs.Splices body deps r segments)
    (hthrough : ∀ callee ∈ rs.rules, Leads edges callee.first.topic callee.last.topic) :
    ∀ u ∈ segments, Leads edges u.entry.topic u.exit.topic := by
  intro u hu
  cases u with
  | node n => exact .refl
  | call callee => exact hthrough callee (h.mem_of_call hu)

theorem Splices.leads {body : RuleBody} {r : CompiledRule} {edges : List Edge}
    (h : rs.Splices body deps r segments)
    (hthrough : ∀ callee ∈ rs.rules, Leads edges callee.first.topic callee.last.topic)
    (hjoints : ∀ j ∈ Segment.joints segments, (⟨j.1, j.2.topic⟩ : Edge) ∈ edges) :
    Leads edges r.first.topic r.last.topic := by
  have hsegments := h.leads_segment hthrough
  obtain ⟨s, hs, hfirst⟩ := Option.map_eq_some_iff.mp h.first
  obtain ⟨t, ht, hlast⟩ := Option.map_eq_some_iff.mp h.last
  obtain ⟨rest, rfl⟩ := List.head?_eq_some_iff.mp hs
  rw [← hfirst, ← hlast]
  exact Segment.leads_of_joints hsegments hjoints (List.mem_of_getLast? ht)

/-- A joint leads to where a rule begins that is there, or to a node of the rule itself. -/
theorem Splices.target {body : RuleBody} {r : CompiledRule}
    (h : rs.Splices body deps r segments) {j : Topic × Node} (hj : j ∈ Segment.joints segments) :
    (∃ callee ∈ rs.rules, callee.first = j.2) ∨ j.2 ∈ r.nodes := by
  obtain ⟨u, hu, hentry⟩ := Segment.exists_of_mem_joints hj
  have hu := List.mem_of_mem_tail hu
  cases u with
  | node n => exact .inr (hentry ▸ h.mem_nodes.mpr hu)
  | call callee => exact .inl ⟨callee, h.mem_of_call hu, hentry⟩

theorem spliced_new (registry : Registry) (config : Config) :
    (new registry config).Spliced [] [] :=
  ⟨rfl, by simp, .nil, by simp [new]⟩

theorem Spliced.congr (h : rs.Spliced layout strays) (hregistry : rs'.registry = rs.registry)
    (hconfig : rs'.config = rs.config) (hrules : rs'.rules = rs.rules) (hbus : rs'.bus = rs.bus)
    (hdownstream : rs'.downstream = rs.downstream) : rs'.Spliced layout strays := by
  have hbegins : rs.rules <+: rs'.rules := hrules ▸ List.prefix_refl _
  refine ⟨h.rules.trans hrules.symm, fun p hp => ?_, hbus ▸ h.subscriptions, ?_⟩
  · obtain ⟨body, deps, hsplices⟩ := h.splices p hp
    exact ⟨body, deps, hsplices.mono hregistry hconfig hbegins⟩
  · rw [hrules, hdownstream]
    exact h.through

section Lays

variable {t : Strand} {s : Supply}

theorem Lays.exists_splices (h : rs.Lays file rule deps t s rs') :
    ∃ segments, rs.Splices rule.body deps t.rule segments ∧
      ((t.wires ++ t.left).map fun w => (w.topic, Node.filter w.target)) =
        Segment.joints segments := by
  rw [h.rule_eq]
  exact Ruleset.exists_splices h.made

/-- Where a rule is laid, walks lead through the rules that were there. -/
theorem Spliced.through_lays (h : rs.Spliced layout strays)
    (hlays : rs.Lays file rule deps t s rs') :
    ∀ r ∈ rs.rules, Leads rs'.downstream r.first.topic r.last.topic := fun r hr =>
  (h.through r hr).mono fun _ he =>
    (mem_downstream_connect hlays.connected).mpr (List.mem_append_left _ he)

theorem Lays.frame (h : rs.Lays file rule deps t s rs') :
    rs'.registry = rs.registry ∧ rs'.config = rs.config := by
  obtain ⟨bus, downstream, threads, hframe⟩ := connect_frame (rs.use s) t.wires
  rw [h.connected] at hframe
  cases hframe
  exact ⟨rfl, rfl⟩

/-- A rule that is built and connected is put behind the others, with its joints. -/
theorem Spliced.whole (h : rs.Spliced layout strays) (hfresh : rs.bus.Fresh)
    (hlays : rs.Lays file rule deps t s rs') (hleft : t.left = [])
    (hsplices : rs.Splices rule.body deps t.rule segments)
    (hwires : ((t.wires ++ t.left).map fun w => (w.topic, Node.filter w.target)) =
      Segment.joints segments) :
    ({ rs' with rules := rs'.rules ++ t.added } : Ruleset).Spliced
      (layout ++ [(t.rule, segments)]) strays := by
  have hold := h.through_lays hlays
  have hrules : rs'.rules = rs.rules := hlays.rules
  have hadded : t.added = [t.rule] := by simp [Strand.added, hleft]
  have hbegins : rs.rules <+: rs'.rules ++ t.added := hrules ▸ List.prefix_append _ _
  obtain ⟨hregistry, hconfig⟩ := hlays.frame
  rw [hleft, List.append_nil] at hwires
  refine ⟨?_, fun p hp => ?_, ?_, fun r hr => ?_⟩
  · simp [hrules, hadded, h.rules]
  · rcases List.mem_append.mp hp with hp | hp
    · obtain ⟨body, deps, hp⟩ := h.splices p hp
      exact ⟨body, deps, hp.mono hregistry hconfig hbegins⟩
    · cases List.mem_singleton.mp hp
      exact ⟨rule.body, deps, hsplices.mono hregistry hconfig hbegins⟩
  · refine ((hlays.perm_subscriptions hfresh).map _).trans ?_
    rw [List.map_append, List.map_map, List.flatMap_append, List.flatMap_singleton, ← hwires,
      List.append_assoc]
    refine (h.subscriptions.append_right _).trans ?_
    rw [List.append_assoc]
    exact List.perm_append_comm.append_left _
  · rw [hadded] at hr
    rcases List.mem_append.mp hr with hr | hr
    · exact hold r (hrules ▸ hr)
    · cases List.mem_singleton.mp hr
      refine hsplices.leads hold fun j hj => ?_
      rw [← hwires] at hj
      obtain ⟨w, hw, rfl⟩ := List.mem_map.mp hj
      exact (mem_downstream_connect hlays.connected).mpr
        (List.mem_append_right _ (List.mem_map_of_mem hw))

/-- The targets of a rule's joints come behind the subscribers of their topics. -/
theorem Lays.subscribers_joints (h : rs.Lays file rule deps t s rs') (hleft : t.left = [])
    (hwires : ((t.wires ++ t.left).map fun w => (w.topic, Node.filter w.target)) =
      Segment.joints segments) (topic : Topic) :
    (rs'.bus.subscribers topic).map Node.filter = (rs.bus.subscribers topic).map Node.filter ++
      ((Segment.joints segments).filter fun j => j.1 = topic).map Prod.snd := by
  have hsubscribers : rs'.bus.subscribers topic = rs.bus.subscribers topic ++
      (t.wires.filter fun w => w.topic = topic).map Wire.target :=
    subscribers_connect h.connected topic
  rw [hleft, List.append_nil] at hwires
  rw [hsubscribers, ← hwires, List.filter_map, List.map_append, List.map_map, List.map_map]
  rfl

/-- The joints of a rule that is broken off become strays. -/
theorem Spliced.torn (h : rs.Spliced layout strays) (hfresh : rs.bus.Fresh)
    (hlays : rs.Lays file rule deps t s rs') (hleft : t.left ≠ []) :
    ({ rs' with rules := rs'.rules ++ t.added } : Ruleset).Spliced layout
      (strays ++ t.wires.map fun w => (w.topic, Node.filter w.target)) := by
  have hrules : rs'.rules = rs.rules := hlays.rules
  have hadded : t.added = [] := by simp [Strand.added, hleft]
  have hsame : rs.rules <+: rs'.rules ++ t.added := hrules ▸ List.prefix_append _ _
  obtain ⟨hregistry, hconfig⟩ := hlays.frame
  refine ⟨by simp [hrules, hadded, h.rules], fun p hp => ?_, ?_, fun r hr => ?_⟩
  · obtain ⟨body, deps, hsplices⟩ := h.splices p hp
    exact ⟨body, deps, hsplices.mono hregistry hconfig hsame⟩
  · refine ((hlays.perm_subscriptions hfresh).map _).trans ?_
    rw [List.map_append, List.map_map, ← List.append_assoc]
    exact h.subscriptions.append_right _
  · rw [hadded, List.append_nil, hrules] at hr
    exact h.through_lays hlays r hr

end Lays

/-- The joints of all rules are all subscriptions but for those of rules that were broken off, which
lead to where rules begin or to nodes that were built for a rule that was broken off. -/
theorem exists_spliced_after (registry : Registry) (config : Config) (calls : List Call) :
    ∃ layout strays, (after registry config calls).Spliced layout strays ∧
      ∀ j ∈ strays, ∃ a ∈ (new registry config).attemptsOf calls, a.BreaksOff ∧
        ((∃ r ∈ (after registry config calls).rules, r.first = j.2) ∨ j.2 ∈ a.built) := by
  refine (attempts_induction (P := fun as rs => rs.bus.Fresh ∧ ∃ layout strays,
    rs.Spliced layout strays ∧ ∀ j ∈ strays, ∃ a ∈ as, a.BreaksOff ∧
      ((∃ r ∈ rs.rules, r.first = j.2) ∨ j.2 ∈ a.built)) ?_ ?_ ?_ calls).2
  · rintro as rs rs' hsame ⟨hfresh, layout, strays, h, hstrays⟩
    exact ⟨hsame.bus ▸ hfresh, layout, strays,
      h.congr hsame.registry hsame.config hsame.rules hsame.bus hsame.downstream,
      hsame.rules ▸ hstrays⟩
  · rintro as a ⟨hfresh, layout, strays, h, hstrays⟩
    refine ⟨fresh_addRule hfresh a.file a.rule a.deps, ?_⟩
    have hkeep (hbegins : ∀ r ∈ a.rs.rules, r ∈ a.result.2.rules) {j : Topic × Node}
        (hj : j ∈ strays) : ∃ b ∈ as ++ [a], b.BreaksOff ∧
          ((∃ r ∈ a.result.2.rules, r.first = j.2) ∨ j.2 ∈ b.built) := by
      obtain ⟨b, hb, hbreaks, htarget⟩ := hstrays j hj
      exact ⟨b, List.mem_append_left _ hb, hbreaks,
        htarget.imp_left fun ⟨r, hr, hfirst⟩ => ⟨r, hbegins r hr, hfirst⟩⟩
    rcases addRule_cases a.rs a.file a.rule a.deps with
      ⟨e, made, -, heq⟩ | ⟨t, s, rs', result, hlays, hending, heq⟩
    · refine ⟨layout, strays, ?_, fun j hj => hkeep ?_ hj⟩
      · rw [Attempt.result, heq]
        exact h.congr rfl rfl rfl rfl rfl
      · rw [Attempt.result, heq]
        exact fun r hr => hr
    · have hbegins : ∀ r ∈ a.rs.rules, r ∈ a.result.2.rules := by
        rw [Attempt.result, heq, ← hlays.rules]
        exact fun r hr => List.mem_append_left _ hr
      obtain ⟨segments, hsplices, hwires⟩ := hlays.exists_splices
      by_cases hleft : t.left = []
      · refine ⟨layout ++ [(t.rule, segments)], strays, ?_, fun j hj => hkeep hbegins hj⟩
        rw [Attempt.result, heq]
        exact h.whole hfresh hlays hleft hsplices hwires
      · refine ⟨layout, strays ++ t.wires.map fun w => (w.topic, Node.filter w.target), ?_,
          fun j hj => ?_⟩
        · rw [Attempt.result, heq]
          exact h.torn hfresh hlays hleft
        · rcases List.mem_append.mp hj with hj | hj
          · exact hkeep hbegins hj
          · have hbreaks := Attempt.breaksOff_of_ending hending (congrArg Prod.fst heq) hleft
            have htarget := hsplices.target (j := j) (by
              rw [← hwires, List.map_append]
              exact List.mem_append_left _ hj)
            refine ⟨a, List.mem_append_right _ List.mem_cons_self, hbreaks, ?_⟩
            rw [Attempt.built_of_lays hlays]
            exact htarget.imp_left fun ⟨r, hr, hfirst⟩ => ⟨r, hbegins r hr, hfirst⟩
  · exact ⟨fresh_after registry config [], [], [], spliced_new registry config, by simp⟩

/-! ### Where a filter hears of -/

theorem Spliced.edge_of_joint (h : rs.Spliced layout strays) (hwired : rs.Wired)
    {p : CompiledRule × List Segment} (hp : p ∈ layout) :
    ∀ j ∈ Segment.joints p.2, (⟨j.1, j.2.topic⟩ : Edge) ∈ rs.downstream := by
  intro j hj
  have hsubscribed := h.subscriptions.mem_iff.mpr
    (List.mem_append_left _ (List.mem_flatMap.mpr ⟨p, hp, hj⟩))
  obtain ⟨s, hs, rfl⟩ := List.mem_map.mp hsubscribed
  exact (hwired.mem_edges _).mp (List.mem_map_of_mem hs)

/-- A segment that is entered at a node with which no rule begins is the node itself. -/
theorem Splices.eq_of_entry {body : RuleBody} {r : CompiledRule} {t : Segment} {n : Node}
    (h : rs.Splices body deps r segments) (hfirst : ∀ r' ∈ rs.rules, r'.first ≠ n)
    (ht : t ∈ segments) (hentry : t.entry = n) : t = .node n := by
  cases t with
  | node m => exact congrArg Segment.node hentry
  | call callee => exact absurd hentry (hfirst callee (h.mem_of_call ht))

/-- A node stands in its rule once: joints lead on from it, and never back. -/
theorem Spliced.not_mem_back (h : rs.Spliced layout strays) (hwired : rs.Wired)
    {p : CompiledRule × List Segment} (hp : p ∈ layout) {front back : List Segment} {n : Node}
    (hsplit : p.2 = front ++ .node n :: back) : .node n ∉ back := by
  intro hback
  obtain ⟨body, deps, hsplices⟩ := h.splices p hp
  have hjoints : ∀ j ∈ Segment.joints (.node n :: back),
      (⟨j.1, j.2.topic⟩ : Edge) ∈ rs.downstream :=
    fun j hj => h.edge_of_joint hwired hp j (hsplit ▸ Segment.joints_subset front _ back hj)
  obtain ⟨t, rest, rfl⟩ := List.exists_cons_of_ne_nil (List.ne_nil_of_mem hback)
  have hsegments : ∀ u ∈ t :: rest, Leads rs.downstream u.entry.topic u.exit.topic := fun u hu =>
    hsplices.leads_segment h.through u (by simp [hsplit, List.mem_cons.mp hu])
  obtain ⟨hjoint, hrest⟩ := List.forall_mem_cons.mp hjoints
  exact hwired.acyclic _ hjoint (Segment.leads_of_joints hsegments hrest hback)

/-- In its own rule one joint leads into a node with which no rule begins, from the link in
front. -/
theorem Spliced.exists_joint (h : rs.Spliced layout strays) (hwired : rs.Wired)
    {p : CompiledRule × List Segment} (hp : p ∈ layout) {n : Node} (hn : n ∈ p.1.nodes)
    (hfirst : ∀ r ∈ rs.rules, r.first ≠ n) :
    ∃ front link back, p.2 = front ++ link :: .node n :: back ∧
      ∃ before behind, Segment.joints p.2 = before ++ (link.exit.topic, n) :: behind ∧
        ∀ j ∈ before ++ behind, j.2 ≠ n := by
  obtain ⟨body, deps, hsplices⟩ := h.splices p hp
  obtain ⟨front, back, hsplit⟩ := List.append_of_mem (hsplices.mem_nodes.mp hn)
  have hback : .node n ∉ back := h.not_mem_back hwired hp hsplit
  have hfront : .node n ∉ front := by
    intro hmem
    obtain ⟨a, b, rfl⟩ := List.append_of_mem hmem
    rw [List.append_assoc, List.cons_append] at hsplit
    exact h.not_mem_back hwired hp hsplit (by simp)
  rcases List.eq_nil_or_concat' front with rfl | ⟨front, link, rfl⟩
  · have hhead := hsplices.first
    rw [hsplit] at hhead
    exact absurd (Option.some.inj hhead).symm (hfirst p.1 (h.rules ▸ List.mem_map_of_mem hp))
  · have hjoints : Segment.joints p.2 = Segment.joints (front ++ [link]) ++
        (link.exit.topic, n) :: Segment.joints (.node n :: back) := by
      rw [hsplit, List.append_assoc]
      exact Segment.joints_append front link (.node n) back
    refine ⟨front, link, back, by simp [hsplit], _, _, hjoints, fun j hj heq => ?_⟩
    have hentered {t : Segment} (ht : t ∈ p.2) (hentry : t.entry = j.2) : t = .node n :=
      hsplices.eq_of_entry hfirst ht (hentry.trans heq)
    rcases List.mem_append.mp hj with hj | hj
    · obtain ⟨t, ht, hentry⟩ := Segment.exists_of_mem_joints hj
      have ht : t ∈ front ++ [link] := List.mem_of_mem_tail ht
      exact hfront (hentered (hsplit ▸ List.mem_append_left _ ht) hentry ▸ ht)
    · obtain ⟨t, ht, hentry⟩ := Segment.exists_of_mem_joints hj
      have ht : t ∈ back := ht
      exact hback (hentered (by simp [hsplit, ht]) hentry ▸ ht)

/-- No joint of another rule leads there. -/
theorem Spliced.ne_of_joint (h : rs.Spliced layout strays) {as : List Attempt}
    (howned : rs.Owned as)
    {p q : CompiledRule × List Segment} (hp : p ∈ layout) (hq : q ∈ layout)
    (hname : q.1.name ≠ p.1.name) {n : Node} (hn : n ∈ p.1.nodes)
    (hfirst : ∀ r ∈ rs.rules, r.first ≠ n) : ∀ j ∈ Segment.joints q.2, j.2 ≠ n := by
  intro j hj heq
  have hrule {p : CompiledRule × List Segment} (hp : p ∈ layout) : p.1 ∈ rs.rules :=
    h.rules ▸ List.mem_map_of_mem hp
  obtain ⟨body, deps, hsplices⟩ := h.splices q hq
  obtain ⟨t, ht, hentry⟩ := Segment.exists_of_mem_joints hj
  have hnode := hsplices.eq_of_entry hfirst (List.mem_of_mem_tail ht) (hentry.trans heq)
  have hn' : n ∈ q.1.nodes := hsplices.mem_nodes.mpr (hnode ▸ List.mem_of_mem_tail ht)
  exact hname ((howned.rules _ (hrule hq) n hn').symm.trans (howned.rules _ (hrule hp) n hn))

/-- What stands once in a list stands once in any other order of it. -/
theorem exists_split_of_perm {α β : Type} {f : α → β} {as : List α} {before behind : List β}
    (hf : f.Injective) (a : α) (h : (as.map f).Perm (before ++ f a :: behind)) {P : β → Prop}
    (hP : ∀ b ∈ before ++ behind, P b) :
    ∃ front back, as = front ++ a :: back ∧ ∀ b ∈ front ++ back, P (f b) := by
  have hmem : f a ∈ as.map f := h.mem_iff.mpr (by simp)
  obtain ⟨a', ha, heq⟩ := List.mem_map.mp hmem
  obtain rfl := hf heq
  obtain ⟨front, back, rfl⟩ := List.append_of_mem ha
  have hrest : ((front ++ back).map f).Perm (before ++ behind) := by
    have hperm := (List.perm_middle.map f).symm.trans (h.trans List.perm_middle)
    exact hperm.cons_inv
  exact ⟨front, back, rfl, fun b hb => hP _ (hrest.subset (List.mem_map_of_mem hb))⟩

/-- A filter with which no rule begins has one subscription, to the link in front of it, if none of
the strays leads to it. -/
theorem Spliced.exists_subscription (h : rs.Spliced layout strays) (hwired : rs.Wired)
    {as : List Attempt} (howned : rs.Owned as) (hnames : rs.ruleNames.Nodup)
    {p : CompiledRule × List Segment} (hp : p ∈ layout) {n : FilterNode}
    (hn : .filter n ∈ p.1.nodes) (hfirst : ∀ r ∈ rs.rules, r.first ≠ .filter n)
    (hstrays : ∀ j ∈ strays, j.2 ≠ .filter n) :
    ∃ front link back, p.2 = front ++ link :: .node (.filter n) :: back ∧
      ∃ before behind, rs.bus.subscriptions = before ++ (link.exit.topic, n) :: behind ∧
        ∀ s ∈ before ++ behind, s.2 ≠ n := by
  obtain ⟨front, link, back, hsegments, before, behind, hjoints, hother⟩ :=
    h.exists_joint hwired hp hn hfirst
  obtain ⟨earlier, later, hlayout⟩ := List.append_of_mem hp
  have hmiddle : layout.Perm (p :: (earlier ++ later)) := hlayout ▸ List.perm_middle
  have hname : p.1.name ∉ (earlier ++ later).map fun q => q.1.name := by
    have hmap : rs.ruleNames = layout.map fun q => q.1.name := by
      rw [ruleNames, ← h.rules, List.map_map]
      rfl
    rw [hmap, (hmiddle.map _).nodup_iff] at hnames
    exact (List.nodup_cons.mp hnames).1
  have hothers : ∀ q ∈ earlier ++ later, ∀ j ∈ Segment.joints q.2, j.2 ≠ .filter n := by
    intro q hq
    have hne : q.1.name ≠ p.1.name := fun heq => hname (heq ▸ List.mem_map_of_mem hq)
    have hq : q ∈ layout := hmiddle.mem_iff.mpr (List.mem_cons_of_mem p hq)
    exact h.ne_of_joint howned hp hq hne hn hfirst
  have hperm : (rs.bus.subscriptions.map fun s => (s.1, Node.filter s.2)).Perm
      (before ++ (link.exit.topic, .filter n) ::
        (behind ++ ((earlier ++ later).flatMap (fun q => Segment.joints q.2) ++ strays))) := by
    refine (h.subscriptions.trans ((hmiddle.flatMap_right _).append_right _)).trans (.of_eq ?_)
    simp only [List.flatMap_cons, hjoints, List.append_assoc, List.cons_append]
  have helsewhere : ∀ j ∈ before ++
      (behind ++ ((earlier ++ later).flatMap (fun q => Segment.joints q.2) ++ strays)),
      j.2 ≠ .filter n := by
    intro j hj
    rw [← List.append_assoc, List.mem_append, List.mem_append (t := strays)] at hj
    rcases hj with hj | hj | hj
    · exact hother j hj
    · obtain ⟨q, hq, hj⟩ := List.mem_flatMap.mp hj
      exact hothers q hq j hj
    · exact hstrays j hj
  have hinj : (fun s : Topic × FilterNode => (s.1, Node.filter s.2)).Injective := by
    rintro ⟨t, m⟩ ⟨t', m'⟩ heq
    simpa using heq
  obtain ⟨before', behind', hsplit, hne⟩ := exists_split_of_perm hinj (link.exit.topic, n) hperm
    helsewhere
  exact ⟨front, link, back, hsegments, before', behind', hsplit,
    fun s hs heq => hne s hs (congrArg Node.filter heq)⟩

/-- A producer is the first node of its rule. -/
theorem exists_producer_iff (r : CompiledRule) (i : Nat) :
    (∃ p, r.nodes[i]? = some (.producer p)) ↔ i = 0 ∧ r.hasProducer = true := by
  obtain ⟨name, file, flow⟩ := r
  cases flow with
  | fragment chain =>
    have hnodes : (CompiledRule.mk name file (.fragment chain)).nodes = chain.own.map .filter := rfl
    simp [hnodes, CompiledRule.hasProducer, CompiledRule.producer?, Flow.producer?]
  | produced producer chain =>
    have hnodes : (CompiledRule.mk name file (.produced producer chain)).nodes =
        .producer producer :: ((chain.map Chain.own).getD []).map .filter := rfl
    cases i <;> simp [hnodes, CompiledRule.hasProducer, CompiledRule.producer?, Flow.producer?]

/-- What is built in an attempt that is broken off is lost. -/
theorem Attempt.BreaksOff.mem_lostBy {a : Attempt} (h : a.BreaksOff) {calls : List Call}
    (ha : a ∈ rs.attemptsOf calls) {n : Node} (hn : n ∈ a.built) : n ∈ rs.lostBy calls := by
  obtain ⟨topic, refusal, -, herror⟩ := h
  refine List.mem_flatMap.mpr ⟨a, ha, ?_⟩
  rwa [herror]

/-- Where the numbers of all nodes that were built are different, no node of a rule is lost. -/
theorem not_mem_lostBy {registry : Registry} {config : Config} {calls : List Call}
    (hroom : (after registry config calls).issued ≤ NodeId.room) {n : Node}
    (hn : n ∈ (after registry config calls).nodes) : n ∉ (new registry config).lostBy calls := by
  have hnodup : (((new registry config).builtBy calls).map Node.id).Nodup :=
    map_id_builtBy registry config calls ▸ NodeId.nodup_map_nth hroom
  have hapart := ((perm_builtBy registry config calls).nodup_iff.mpr hnodup.of_map)
  exact fun hlost => (List.nodup_append.mp hapart).2.2 n hn n hlost rfl

/-- What leads to where a rule begins, or to a node that is lost, leads to no other node of a
rule. -/
theorem ne_of_lead {registry : Registry} {config : Config} {calls : List Call} {n n' : Node}
    (hlead : (∃ r ∈ (after registry config calls).rules, r.first = n) ∨
      n ∈ (new registry config).lostBy calls)
    (hroom : (after registry config calls).issued ≤ NodeId.room)
    (hn' : n' ∈ (after registry config calls).nodes)
    (hfirst : ∀ r ∈ (after registry config calls).rules, r.first ≠ n') : n ≠ n' := by
  rintro rfl
  rcases hlead with ⟨r, hr, hentry⟩ | hlost
  · exact hfirst r hr hentry
  · exact not_mem_lostBy hroom hn' hlost

/-- The links of a rule that is added become new nodes, or stand for rules that it calls. The rule
has just these nodes, and its joints, each from the exit of a link to the entry of the next, are
what is subscribed; it is entered at its first link and left at its last. In every history these
joints of all rules are all subscriptions, with some joints of rules that were broken off, which
lead to where rules begin or to nodes of no rule. So a filter with which no rule begins has one, to
the link in front of it: nodes that were built for a rule that was broken off are other nodes, as
long as there are numbers for all. -/
theorem splices_written_links (registry : Registry) (config : Config) (calls : List Call) :
    let rs := after registry config calls
    (∀ file rule deps rs', rs.addRule file rule deps = (.ok (), rs') →
      ∃ flow segments, let r : CompiledRule := ⟨rule.name, file, flow⟩
        rs'.rules = rs.rules ++ [r] ∧ rs.Splices rule.body deps r segments ∧
        r.nodes.map Node.id = (List.range' rs.issued r.nodes.length).map NodeId.nth ∧
        (∀ i, (∃ p, r.nodes[i]? = some (.producer p)) ↔ i = 0 ∧ r.hasProducer = true) ∧
        (∀ topic, (rs'.bus.subscribers topic).map Node.filter =
          (rs.bus.subscribers topic).map Node.filter ++
            ((Segment.joints segments).filter fun j => j.1 = topic).map Prod.snd) ∧
        ∀ layout strays, rs.Spliced layout strays →
          rs'.Spliced (layout ++ [(r, segments)]) strays) ∧
    ∃ layout strays, rs.Spliced layout strays ∧
      ((∀ a ∈ (new registry config).attemptsOf calls, ¬a.BreaksOff) → strays = []) ∧
      (∀ j ∈ strays, (∃ r ∈ rs.rules, r.first = j.2) ∨ j.2 ∈ (new registry config).lostBy calls) ∧
      (strays = [] ∨ rs.issued ≤ 2 ^ 32 → ∀ p ∈ layout, ∀ n, .filter n ∈ p.1.nodes →
        (∀ r ∈ rs.rules, r.first ≠ .filter n) →
        ∃ front link back, p.2 = front ++ link :: .node (.filter n) :: back ∧
          ∃ before behind, rs.bus.subscriptions = before ++ (link.exit.topic, n) :: behind ∧
            ∀ s ∈ before ++ behind, s.2 ≠ n) := by
  intro rs
  have hfresh : rs.bus.Fresh := fresh_after registry config calls
  constructor
  · intro file rule deps rs₁ hadd
    rcases addRule_cases rs file rule deps with
      ⟨e, made, -, heq⟩ | ⟨t, s, rs', result, hlays, hending, heq⟩
    · cases hadd.symm.trans heq
    · cases hending with
      | torn => cases hadd.symm.trans heq
      | whole hleft =>
        obtain rfl := congrArg Prod.snd (hadd.symm.trans heq)
        obtain ⟨segments, hsplices, hwires⟩ := hlays.exists_splices
        have hadded : t.added = [t.rule] := by simp [Strand.added, hleft]
        have hids := hlays.ids (numbered_after registry config calls).next
        refine ⟨t.rule.flow, segments, ?_⟩
        rw [← hlays.rule_eq]
        refine ⟨by rw [hadded, hlays.rules], hsplices, hids, exists_producer_iff _,
          hlays.subscribers_joints hleft hwires,
          fun layout strays h => h.whole hfresh hlays hleft hsplices hwires⟩
  · obtain ⟨layout, strays, h, hstrays⟩ := exists_spliced_after registry config calls
    have hnames : rs.ruleNames.Nodup := by
      have hacts := nodup_afterActs registry config (calls.map .call)
      rwa [afterActs, List.foldl_map] at hacts
    have hlead : ∀ j ∈ strays, (∃ r ∈ rs.rules, r.first = j.2) ∨
        j.2 ∈ (new registry config).lostBy calls := by
      intro j hj
      obtain ⟨a, ha, hbreaks, htarget⟩ := hstrays j hj
      exact htarget.imp_right (hbreaks.mem_lostBy ha)
    refine ⟨layout, strays, h, fun hunbroken => ?_, hlead, fun hroom p hp n hn hfirst => ?_⟩
    · refine List.eq_nil_iff_forall_not_mem.mpr fun j hj => ?_
      obtain ⟨a, ha, hbreaks, -⟩ := hstrays j hj
      exact hunbroken a ha hbreaks
    · have hnode : .filter n ∈ rs.nodes :=
        List.mem_flatMap.mpr ⟨p.1, h.rules ▸ List.mem_map_of_mem hp, hn⟩
      have hothers : ∀ j ∈ strays, j.2 ≠ .filter n := by
        intro j hj
        rcases hroom with rfl | hroom
        · cases hj
        · exact ne_of_lead (hlead j hj) hroom hnode hfirst
      exact h.exists_subscription (wired_after registry config calls)
        (owned_after registry config calls) hnames hp hn hfirst hothers

/-- Behind a call, in the middle of a chain, of a rule that begins with a call itself, the last
filter hears of the last filter of the called rule only. -/
theorem splices_written_links_call :
    let registry := (Registry.empty.addProducer "tick" fun _ => .ok ⟨0, fun _ => .finish⟩).addFilter
      "pass" fun _ => .ok .matched
    let base : Rule := ⟨"base", ⟨1, 1⟩, .fragment (.filter "pass" [] false) []⟩
    let mid : Rule := ⟨"mid", ⟨1, 1⟩, .fragment (.call "base") [.filter "pass" [] true]⟩
    let top : Rule := ⟨"top", ⟨1, 1⟩,
      .produced ⟨"tick", []⟩ [.filter "pass" [] false, .call "mid", .filter "pass" [] false]⟩
    let add (r : Rule) : Ruleset.Call := .addRule ⟨"m"⟩ r []
    let rs := after registry .empty [add base, add mid]
    let rs' := after registry .empty [add base, add mid, add top]
    rs.addRule ⟨"m"⟩ top [] = (.ok (), rs') ∧
    (∃ flow segments, rs.Splices top.body [] ⟨"top", ⟨"m"⟩, flow⟩ segments) ∧
    ∃ n, .filter n ∈ rs'.nodes ∧ n.topic = ⟨"pass:4"⟩ ∧
      ∃ before behind, rs'.bus.subscriptions = before ++ (⟨"pass:1"⟩, n) :: behind ∧
        ∀ s ∈ before ++ behind, s.2 ≠ n := by
  intro registry base mid top add rs rs'
  have hok : (rs.addRule ⟨"m"⟩ top []).1 = .ok () := by
    simp only [rs, add, top, mid, base, registry]
    cbv
  have hnext : rs' = rs.call (add top) :=
    List.foldl_concat call (new registry .empty) (add top) [add base, add mid]
  have hadd : rs.addRule ⟨"m"⟩ top [] = (.ok (), rs') := hnext ▸ Prod.ext hok rfl
  have hedges : rs'.bus.edges = [⟨⟨"pass:0"⟩, ⟨"pass:1"⟩⟩, ⟨⟨"tick:2"⟩, ⟨"pass:3"⟩⟩,
      ⟨⟨"pass:3"⟩, ⟨"pass:0"⟩⟩, ⟨⟨"pass:1"⟩, ⟨"pass:4"⟩⟩] := by
    simp only [rs', add, top, mid, base, registry]
    cbv
  have hfirsts : (rs'.rules.map fun r => r.first.topic) =
      [⟨"pass:0"⟩, ⟨"pass:0"⟩, ⟨"tick:2"⟩] := by
    simp only [rs', add, top, mid, base, registry]
    cbv
  obtain ⟨hsplices, -⟩ := splices_written_links registry .empty [add base, add mid]
  obtain ⟨flow, segments, -, htop, -⟩ := hsplices ⟨"m"⟩ top [] rs' hadd
  have hunbroken : ∀ a ∈ (new registry .empty).attemptsOf [add base, add mid, add top],
      ¬a.BreaksOff := by
    have hsucceed : (new registry .empty).AllSucceed [add base, add mid, add top] :=
      ⟨by simp only [Succeeds, add, base, registry]; cbv,
        by simp only [Succeeds, add, mid, base, registry]; cbv, hok, trivial⟩
    exact fun a ha => (hsucceed.attemptsOf a ha).not_breaksOff
  obtain ⟨-, layout, strays, hlayout, hnone, -, hone⟩ :=
    splices_written_links registry .empty [add base, add mid, add top]
  have hlast : (⟨⟨"pass:1"⟩, ⟨"pass:4"⟩⟩ : Edge) ∈ rs'.bus.edges := by simp [hedges]
  obtain ⟨⟨t, n⟩, hsubscribed, hedge⟩ := List.mem_map.mp hlast
  have htopic : n.topic = ⟨"pass:4"⟩ := congrArg Edge.target hedge
  have hnode : .filter n ∈ rs'.nodes := by
    rcases (owned_after registry .empty _).subscribers _ hsubscribed with hn | ⟨a, ha, hbreaks, -⟩
    · exact hn
    · exact absurd hbreaks (hunbroken a ha)
  obtain ⟨r, hr, hn⟩ := List.mem_flatMap.mp hnode
  obtain ⟨p, hp, rfl⟩ := List.mem_map.mp (hlayout.rules ▸ hr)
  have hfirst : ∀ r ∈ rs'.rules, r.first ≠ .filter n := by
    intro r hr heq
    have hmem : n.topic ∈ rs'.rules.map fun r => r.first.topic :=
      List.mem_map.mpr ⟨r, hr, congrArg Node.topic heq⟩
    simp [hfirsts, htopic] at hmem
  obtain ⟨front, link, back, -, before, behind, hsubscriptions, hother⟩ :=
    hone (.inl (hnone hunbroken)) p hp n hn hfirst
  have hexit : (⟨link.exit.topic, n.topic⟩ : Edge) ∈ rs'.bus.edges := by
    rw [Bus.edges, hsubscriptions]
    simp
  have hlink : link.exit.topic = ⟨"pass:1"⟩ := by
    simpa [hedges, htopic] using hexit
  exact ⟨hadd, ⟨flow, segments, htop⟩, n, hnode, htopic, before, behind,
    hlink ▸ hsubscriptions, hother⟩

end Ruleset
end RuleGraph
