import Mathlib
import RuleGraph.Proofs.Graph.Atomicity
import RuleGraph.Proofs.Graph.Attempts
import RuleGraph.Proofs.Traffic.Interleaving

/-!
# Joints

Two links that follow each other in a rule are joined by a wire, and each wire makes a subscription
of its own. A filter that a rule makes for itself is new, so no wire into it repeats another. A
called rule is shared, so the wire into it from another called rule comes again with every rule that
calls the two one behind the other, and from then on each message goes there once more. In
`downstream` such a joint stands once. Of a rule that was broken off, the wires in front of the one
that was not started are there as well.
-/
namespace RuleGraph

namespace Topic

/-- A topic whose number is none of the first `k`. -/
def New (k : Nat) (t : Topic) : Prop :=
  ∃ n, k ≤ n ∧ n < NodeId.room ∧ ∃ type, t = .ofNode type (.nth n)

theorem New.anti {k l : Nat} {t : Topic} (h : t.New l) (hle : k ≤ l) : t.New k := by
  obtain ⟨n, hn, ht⟩ := h
  exact ⟨n, hle.trans hn, ht⟩

theorem Given.ne_new {k : Nat} {t u : Topic} (h : t.Given k) (hu : u.New k) : t ≠ u := by
  obtain ⟨n, hn, hroom, type, rfl⟩ := hu
  exact (h.mono hn).ne hroom type

end Topic

namespace Section

/-- Two sections that are entered at different nodes, or are both calls. -/
def Apart (s t : Section) : Prop :=
  (s.call?.isSome = true ∧ t.call?.isSome = true) ∨ s.first.topic ≠ t.first.topic

/-- A section is a filter, or the chain of one of the rules. -/
def Known (rules : List CompiledRule) : Section → Prop
  | .filter _ => True
  | .call name first last =>
    ∃ r ∈ rules, r.name = name ∧ ∃ own, r.flow = .fragment ⟨own, first, last⟩

theorem Known.mono {rules more : List CompiledRule} (hsub : ∀ r ∈ rules, r ∈ more) {s : Section}
    (h : s.Known rules) : s.Known more := by
  cases s with
  | filter => trivial
  | call =>
    obtain ⟨r, hr, hflow⟩ := h
    exact ⟨r, hsub r hr, hflow⟩

theorem map_target_wires (topic : Topic) (sections : List Section) :
    (wires topic sections).map (fun w => (w.target, w.call)) =
      sections.map fun s => (s.first, s.call?) := by
  induction sections generalizing topic with
  | nil => rfl
  | cons s rest ih => simp [wires, ih]

theorem exists_of_mem_wires {topic : Topic} {sections : List Section} {v : Wire}
    (hv : v ∈ wires topic sections) : ∃ s ∈ sections, s.first = v.target ∧ s.call? = v.call := by
  have hmem : (v.target, v.call) ∈ (wires topic sections).map fun w => (w.target, w.call) :=
    List.mem_map_of_mem hv
  rw [map_target_wires] at hmem
  obtain ⟨s, hs, heq⟩ := List.mem_map.mp hmem
  exact ⟨s, hs, Prod.mk.inj heq⟩

/-- A call of a rule is entered where the rule begins. -/
theorem Known.exists_first {rules : List CompiledRule} {s : Section} (h : s.Known rules)
    (hcall : s.call?.isSome = true) : ∃ r ∈ rules, r.first = .filter s.first := by
  cases s with
  | filter => simp [call?] at hcall
  | call name first last =>
    obtain ⟨r, hr, -, own, hflow⟩ := h
    exact ⟨r, hr, by rw [CompiledRule.first, hflow]; rfl⟩

end Section

/-- Two wires that lead to different nodes, or both into called rules. -/
def Wire.Apart (w v : Wire) : Prop :=
  (w.call.isSome = true ∧ v.call.isSome = true) ∨ w.target.topic ≠ v.target.topic

/-- The links of a flow, and the wires by which each is joined to the one in front of it. -/
inductive Flow.Joins : Flow → List Section → List Wire → Prop
  | fragment (head : Section) (sections : List Section) :
      Joins (.fragment (head.chain sections)) (head :: sections)
        (Section.wires head.last.topic sections)
  | produced (producer : ProducerNode) (sections : List Section) :
      Joins (.produced producer (Section.chain? sections)) sections
        (Section.wires producer.topic sections)

theorem Flow.Joins.exists_section {flow : Flow} {sections : List Section} {wires : List Wire}
    (h : flow.Joins sections wires) {v : Wire} (hv : v ∈ wires) :
    ∃ s ∈ sections, s.first = v.target ∧ s.call? = v.call := by
  cases h with
  | fragment head sections =>
    obtain ⟨s, hs, heq⟩ := Section.exists_of_mem_wires hv
    exact ⟨s, List.mem_cons_of_mem _ hs, heq⟩
  | produced producer sections => exact Section.exists_of_mem_wires hv

/-- The wires that join the links of a rule, each of which is a filter or calls one of the rules. -/
def CompiledRule.JoinedBy (rules : List CompiledRule) (r : CompiledRule) (wires : List Wire) :
    Prop :=
  ∃ sections, r.flow.Joins sections wires ∧ ∀ s ∈ sections, s.Known rules

/-- A wire into a called rule leads to where a rule begins. -/
theorem CompiledRule.JoinedBy.exists_first {rules : List CompiledRule} {r : CompiledRule}
    {wires : List Wire} (h : r.JoinedBy rules wires) {v : Wire} (hv : v ∈ wires)
    (hcall : v.call.isSome = true) : ∃ r' ∈ rules, r'.first = .filter v.target := by
  obtain ⟨sections, hjoins, hknown⟩ := h
  obtain ⟨s, hs, hfirst, hcall'⟩ := hjoins.exists_section hv
  rw [← hfirst]
  exact (hknown s hs).exists_first (hcall' ▸ hcall)

theorem CompiledRule.JoinedBy.mono {rules more : List CompiledRule} {r : CompiledRule}
    {wires : List Wire} (hsub : ∀ r ∈ rules, r ∈ more) (h : r.JoinedBy rules wires) :
    r.JoinedBy more wires := by
  obtain ⟨sections, hjoins, hknown⟩ := h
  exact ⟨sections, hjoins, fun s hs => (hknown s hs).mono hsub⟩

namespace Workshop

variable {w : Workshop}

/-- A section is entered at a new filter, or at an old one if it is a call. So the new filters are
entered once. -/
theorem Made.apart {rule : String} {s s' : Supply} {links : List Link} {sections : List Section}
    (h : Made w rule s links sections s') {old k : Nat} (hle : old ≤ k) (hnext : s.next = .nth k)
    (hroom : k + (Section.owned sections).length ≤ NodeId.room)
    (hcallee : ∀ name callee, w.callee? name = some callee → callee.first.topic.Given old) :
    (∀ t ∈ sections, (t.call? = none ∧ t.first.topic.New k) ∨
      (t.call?.isSome = true ∧ t.first.topic.Given old)) ∧ sections.Pairwise Section.Apart := by
  induction h generalizing k with
  | nil => simp
  | @filter s _ type _ _ _ _ _ sections _ _ _ ih =>
    simp only [Section.owned_filter, List.length_cons] at hroom
    have hnew : Topic.New k (.ofNode type s.next) := ⟨k, le_rfl, by omega, type, by rw [hnext]⟩
    have hgiven : Topic.Given (k + 1) (.ofNode type s.next) := ⟨k, by omega, type, by rw [hnext]⟩
    obtain ⟨hrest, hpairs⟩ := ih (by omega) (Supply.next_take hnext _ _) (by omega)
    refine ⟨?_, List.pairwise_cons.mpr ⟨fun t ht => .inr ?_, hpairs⟩⟩
    · intro t ht
      rcases List.mem_cons.mp ht with rfl | ht
      · exact .inl ⟨rfl, hnew⟩
      · exact (hrest t ht).imp_left fun h => ⟨h.1, h.2.anti (Nat.le_succ k)⟩
    · rcases hrest t ht with ⟨_, hlater⟩ | ⟨_, hold⟩
      · exact hgiven.ne_new hlater
      · exact ((hold.mono hle).ne_new hnew).symm
  | @call _ _ name callee chain _ _ hvisible hflow _ ih =>
    have hfirst : chain.first.topic.Given old := by
      have hfirst := hcallee name callee hvisible
      rw [CompiledRule.first, hflow] at hfirst
      exact hfirst
    obtain ⟨hrest, hpairs⟩ := ih hle hnext hroom
    refine ⟨?_, List.pairwise_cons.mpr ⟨fun t ht => ?_, hpairs⟩⟩
    · intro t ht
      rcases List.mem_cons.mp ht with rfl | ht
      · exact .inr ⟨rfl, hfirst⟩
      · exact hrest t ht
    · rcases hrest t ht with ⟨_, hnew⟩ | ⟨hcall, _⟩
      · exact .inr ((hfirst.mono hle).ne_new hnew)
      · exact .inl ⟨rfl, hcall⟩

/-- The sections of links call rules that are visible. -/
theorem Made.known {rule : String} {s s' : Supply} {links : List Link} {sections : List Section}
    (h : Made w rule s links sections s') {rules : List CompiledRule}
    (hcallee : ∀ name callee, w.callee? name = some callee → callee ∈ rules ∧ callee.name = name) :
    ∀ t ∈ sections, t.Known rules := by
  induction h with
  | nil => simp
  | filter _ _ _ ih => exact List.forall_mem_cons.mpr ⟨trivial, ih⟩
  | @call _ _ name callee chain _ _ hvisible hflow _ ih =>
    obtain ⟨hmem, hname⟩ := hcallee name callee hvisible
    exact List.forall_mem_cons.mpr ⟨⟨callee, hmem, hname, chain.own, hflow⟩, ih⟩

/-- What the wires of a rule lead into, where nodes with the first `old` numbers are those of other
rules. -/
structure Fresh (old : Nat) (flow : Flow) (wires : List Wire) : Prop where
  targets : ∀ v ∈ wires, (v.call = none ∧ v.target.topic.New old) ∨
    (v.call.isSome = true ∧ v.target.topic.Given old)
  apart : wires.Pairwise Wire.Apart
  first : ∀ v ∈ wires, v.call = none → flow.first.topic ≠ v.target.topic

/-- Wires in front of others lead into new nodes as well. -/
theorem Fresh.of_append {old : Nat} {flow : Flow} {wires left : List Wire}
    (h : Fresh old flow (wires ++ left)) : Fresh old flow wires :=
  ⟨fun v hv => h.targets v (List.mem_append_left _ hv), (List.pairwise_append.mp h.apart).1,
    fun v hv => h.first v (List.mem_append_left _ hv)⟩

theorem fresh_wires {old : Nat} {flow : Flow} {topic : Topic} {sections : List Section}
    (htargets : ∀ t ∈ sections, (t.call? = none ∧ t.first.topic.New old) ∨
      (t.call?.isSome = true ∧ t.first.topic.Given old))
    (hapart : sections.Pairwise Section.Apart)
    (hfirst : ∀ t ∈ sections, t.call? = none → flow.first.topic ≠ t.first.topic) :
    Fresh old flow (Section.wires topic sections) := by
  refine ⟨fun v hv => ?_, ?_, fun v hv hcall => ?_⟩
  · obtain ⟨t, ht, htarget, hcall⟩ := Section.exists_of_mem_wires hv
    rw [← htarget, ← hcall]
    exact htargets t ht
  · let apart (p q : FilterNode × Option String) : Prop :=
      (p.2.isSome = true ∧ q.2.isSome = true) ∨ p.1.topic ≠ q.1.topic
    have hpairs : (sections.map fun s => (s.first, s.call?)).Pairwise apart :=
      List.pairwise_map.mpr hapart
    rw [← Section.map_target_wires topic] at hpairs
    exact (List.pairwise_map (R := apart)).mp hpairs
  · obtain ⟨t, ht, htarget, hcall'⟩ := Section.exists_of_mem_wires hv
    rw [← htarget]
    exact hfirst t ht (hcall'.trans hcall)

/-- A rule that is made is joined by its wires and its own filters are new. It begins at a node of
its own or where another rule begins. -/
theorem MadeRule.joins {rule : Rule} {s s' : Supply} {flow : Flow} {wires : List Wire}
    (h : MadeRule w rule s flow wires s') {k : Nat} (hnext : s.next = .nth k)
    (hroom : k + flow.nodes.length ≤ NodeId.room) {rules : List CompiledRule}
    (hknown : ∀ name callee, w.callee? name = some callee → callee ∈ rules ∧ callee.name = name)
    (hgiven : ∀ name callee, w.callee? name = some callee → callee.first.topic.Given k) :
    (∃ sections, flow.Joins sections wires ∧ ∀ t ∈ sections, t.Known rules) ∧
      Fresh k flow wires ∧ (flow.first.topic.New k ∨ ∃ r ∈ rules, r.first = flow.first) := by
  cases h with
  | @fragment _ _ head sections _ _ links =>
    rw [nodes_fragment, List.length_map] at hroom
    obtain ⟨htargets, hapart⟩ := links.apart le_rfl hnext hroom hgiven
    obtain ⟨hhead, hrest⟩ := List.pairwise_cons.mp hapart
    have hsections := links.known hknown
    have hownRest (t : Section) (ht : t ∈ sections) := htargets t (List.mem_cons_of_mem _ ht)
    refine ⟨⟨_, .fragment head sections, hsections⟩,
      fresh_wires hownRest hrest fun t ht hown => ?_, ?_⟩
    · rcases hhead t ht with ⟨_, hcall⟩ | hne
      · simp [hown] at hcall
      · exact hne
    · rcases htargets head List.mem_cons_self with ⟨_, hnew⟩ | ⟨hcall, _⟩
      · exact .inl hnew
      · exact .inr ((hsections head List.mem_cons_self).exists_first hcall)
  | @produced decl _ _ _ sections _ _ _ _ links =>
    rw [nodes_produced, List.length_cons, List.length_map] at hroom
    obtain ⟨htargets, hapart⟩ := links.apart (Nat.le_succ k) (Supply.next_take hnext _ _)
      (by omega) hgiven
    have hproducer : Topic.Given (k + 1) (.ofNode decl.name s.next) :=
      ⟨k, by omega, decl.name, by rw [hnext]⟩
    refine ⟨⟨_, .produced _ sections, links.known hknown⟩,
      fresh_wires (fun t ht => (htargets t ht).imp_left fun h => ⟨h.1, h.2.anti (Nat.le_succ k)⟩)
        hapart fun t ht hown => ?_, .inl ⟨k, le_rfl, by omega, decl.name, by rw [← hnext]; rfl⟩⟩
    rcases htargets t ht with ⟨_, hnew⟩ | ⟨hcall, _⟩
    · exact hproducer.ne_new hnew
    · simp [hown] at hcall

end Workshop
namespace Ruleset

variable {rs : Ruleset}

/-- The wires that join the links of each rule make up the subscriptions, in order, and none of them
leads into a filter that a rule made for itself if a rule begins there or another wire leads
there. -/
structure Jointed (rs : Ruleset) (strands : List Strand) : Prop where
  rules : strands.flatMap Strand.added = rs.rules
  joined : ∀ s ∈ strands, s.rule.JoinedBy rs.rules (s.wires ++ s.left)
  subscribers : ∀ t, rs.bus.subscribers t =
    ((strands.flatMap Strand.wires).filter fun w => w.topic = t).map Wire.target
  edges : ∀ e, e ∈ rs.downstream ↔ e ∈ (strands.flatMap Strand.wires).map Wire.edge
  apart : (strands.flatMap Strand.wires).Pairwise Wire.Apart
  entries : ∀ w ∈ strands.flatMap Strand.wires, w.call = none →
    ∀ r ∈ rs.rules, r.first.topic ≠ w.target.topic

theorem jointed_new (registry : Registry) (config : Config) : (new registry config).Jointed [] :=
  ⟨rfl, by simp, fun _ => rfl, fun _ => Iff.rfl, .nil, by simp⟩

theorem Jointed.congr {rs' : Ruleset} {strands : List Strand} (h : rs.Jointed strands)
    (hrules : rs'.rules = rs.rules) (hbus : rs'.bus = rs.bus)
    (hdownstream : rs'.downstream = rs.downstream) : rs'.Jointed strands :=
  ⟨hrules ▸ h.rules, hrules ▸ h.joined, hbus ▸ h.subscribers, hdownstream ▸ h.edges, h.apart,
    hrules ▸ h.entries⟩

/-- The nodes into which wires lead have numbers that were given out. -/
theorem Jointed.target_given {strands : List Strand} (h : rs.Jointed strands)
    (hgrounded : rs.Grounded) {w : Wire} (hw : w ∈ strands.flatMap Strand.wires) :
    w.target.topic.Given rs.issued :=
  (hgrounded.edges w.edge ((h.edges _).mpr (List.mem_map_of_mem hw))).2

/-- Wires of a rule that comes in lead into new filters, or into called rules, which no filter but
the first of a rule is entered by. -/
theorem Jointed.apart_concat {strands : List Strand} (h : rs.Jointed strands)
    (hgrounded : rs.Grounded) {flow : Flow} {wires : List Wire}
    (hfresh : Workshop.Fresh rs.issued flow wires)
    (hcalls : ∀ v ∈ wires, v.call.isSome = true → ∃ r ∈ rs.rules, r.first = .filter v.target) :
    (strands.flatMap Strand.wires ++ wires).Pairwise Wire.Apart := by
  refine List.pairwise_append.mpr ⟨h.apart, hfresh.apart, fun w hw v hv => ?_⟩
  rcases hfresh.targets v hv with ⟨_, hnew⟩ | ⟨hcall, _⟩
  · exact .inr ((h.target_given hgrounded hw).ne_new hnew)
  · cases hown : w.call with
    | some c => exact .inl ⟨by simp [hown], hcall⟩
    | none =>
      obtain ⟨r, hr, hfirst⟩ := hcalls v hv hcall
      have hne := h.entries w hw hown r hr
      rw [hfirst] at hne
      exact .inr hne.symm

/-- A rule that is built is put behind the others, with its wires as far as they are connected. -/
theorem Jointed.lays {strands : List Strand} (h : rs.Jointed strands) (hnumbered : rs.Numbered)
    (hgrounded : rs.Grounded) {file : Path} {rule : Rule} {deps : List Path} {t : Strand}
    {s : Supply} {rs' : Ruleset} (hlays : rs.Lays file rule deps t s rs')
    (hroom : rs'.issued ≤ NodeId.room) :
    ({ rs' with rules := rs'.rules ++ t.added } : Ruleset).Jointed (strands ++ [t]) := by
  have hrules : rs'.rules = rs.rules := hlays.rules
  rw [hlays.issued] at hroom
  obtain ⟨hjoined, hall, hfirst⟩ := hlays.made.joins hnumbered.next hroom
    (fun name callee hc => ⟨(callee?_eq_some hc).1, (callee?_eq_some hc).2.1⟩)
    (fun name callee hc => hnumbered.topic_given (hgrounded.ends _ (callee?_eq_some hc).1).1)
  have hfresh := hall.of_append
  have hr : t.rule.JoinedBy rs.rules (t.wires ++ t.left) := hjoined
  have hsub : ∀ r' ∈ rs.rules, r' ∈ rs.rules ++ t.added := fun _ => List.mem_append_left _
  have hcalls : ∀ v ∈ t.wires, v.call.isSome = true → ∃ r ∈ rs.rules, r.first = .filter v.target :=
    fun v hv => hr.exists_first (List.mem_append_left _ hv)
  have hwires : (strands ++ [t]).flatMap Strand.wires =
      strands.flatMap Strand.wires ++ t.wires := by simp
  refine ⟨?_, ?_, fun topic => ?_, fun e => ?_, ?_, ?_⟩
  · simp [hrules, h.rules]
  · simp only [hrules]
    intro s hs
    rcases List.mem_append.mp hs with hs | hs
    · exact (h.joined s hs).mono hsub
    · cases List.mem_singleton.mp hs
      exact hr.mono hsub
  · have hsubscribers := subscribers_connect hlays.connected topic
    rw [hwires, List.filter_append, List.map_append, ← h.subscribers topic]
    exact hsubscribers
  · have hdownstream := mem_downstream_connect hlays.connected (e := e)
    rw [hwires, List.map_append, List.mem_append, ← h.edges e]
    exact hdownstream.trans List.mem_append
  · rw [hwires]
    exact h.apart_concat hgrounded hfresh hcalls
  · simp only [hwires, hrules]
    intro w hw hown r' hr'
    rcases List.mem_append.mp hw with hw | hw <;> rcases List.mem_append.mp hr' with hr' | hr'
    · exact h.entries w hw hown r' hr'
    · obtain ⟨-, rfl⟩ := Strand.mem_added.mp hr'
      rcases hfirst with hnew | ⟨callee, hcallee, hfirst⟩
      · exact ((h.target_given hgrounded hw).ne_new hnew).symm
      · rw [CompiledRule.first, ← hfirst]
        exact h.entries w hw hown callee hcallee
    · rcases hfresh.targets w hw with ⟨_, hnew⟩ | ⟨hcall, _⟩
      · exact (hnumbered.topic_given (hgrounded.ends r' hr').1).ne_new hnew
      · simp [hown] at hcall
    · obtain ⟨-, rfl⟩ := Strand.mem_added.mp hr'
      exact hfresh.first w hw hown

/-- As long as the numbers of nodes are different, the subscriptions are the joints of the rules,
and of rules that were broken off. -/
theorem exists_jointed_after (registry : Registry) (config : Config) (calls : List Call)
    (hroom : (after registry config calls).issued ≤ NodeId.room) :
    ∃ strands, (after registry config calls).Jointed strands ∧
      ((∀ a ∈ (new registry config).attemptsOf calls, ¬a.BreaksOff) →
        ∀ s ∈ strands, s.left = []) := by
  refine (attempts_induction (P := fun as rs => rs.Numbered ∧ rs.Grounded ∧
    (rs.issued ≤ NodeId.room → ∃ strands, rs.Jointed strands ∧
      ((∀ a ∈ as, ¬a.BreaksOff) → ∀ s ∈ strands, s.left = []))) ?_ ?_ ?_ calls).2.2 hroom
  · rintro as rs rs' hsame ⟨hnumbered, hgrounded, hjointed⟩
    refine ⟨hnumbered.congr hsame.next hsame.issued hsame.rules,
      hgrounded.congr hsame.rules hsame.downstream (Nat.le_of_eq hsame.issued.symm),
      fun hroom => ?_⟩
    obtain ⟨strands, h, hwhole⟩ := hjointed (hsame.issued ▸ hroom)
    exact ⟨strands, h.congr hsame.rules hsame.bus hsame.downstream, hwhole⟩
  · rintro as a ⟨hnumbered, hgrounded, hjointed⟩
    refine ⟨hnumbered.addRule a.file a.rule a.deps,
      hgrounded.addRule hnumbered a.file a.rule a.deps, fun hroom => ?_⟩
    obtain ⟨strands, h, hwhole⟩ :=
      hjointed ((issued_le_addRule a.rs a.file a.rule a.deps).trans hroom)
    have hwhole' (hunbroken : ∀ b ∈ as ++ [a], ¬b.BreaksOff) : ∀ s ∈ strands, s.left = [] :=
      hwhole fun b hb => hunbroken b (List.mem_append_left _ hb)
    rcases addRule_cases a.rs a.file a.rule a.deps with
      ⟨e, made, -, heq⟩ | ⟨t, s, rs', result, hlays, hending, heq⟩
    · refine ⟨strands, ?_, hwhole'⟩
      rw [Attempt.result, heq]
      exact h.congr rfl rfl rfl
    · refine ⟨strands ++ [t], ?_, fun hunbroken s hs => ?_⟩
      · rw [Attempt.result, heq] at hroom ⊢
        exact h.lays hnumbered hgrounded hlays hroom
      · rcases List.mem_append.mp hs with hs | hs
        · exact hwhole' hunbroken s hs
        · cases List.mem_singleton.mp hs
          by_contra hleft
          exact hunbroken a (List.mem_append_right _ List.mem_cons_self)
            (Attempt.breaksOff_of_ending hending (congrArg Prod.fst heq) hleft)
  · exact ⟨numbered_after registry config [], grounded_after registry config [], fun _ =>
      ⟨[], jointed_new registry config, by simp⟩⟩

/-- If no wire into a called rule repeats another, no wire does. -/
theorem nodup_edges_iff_of_apart {wires : List Wire} (h : wires.Pairwise Wire.Apart) :
    ((wires.filter fun w => w.call.isSome).map Wire.edge).Nodup ↔
      (wires.map Wire.edge).Nodup := by
  refine ⟨fun hcalls => ?_, fun hall => hall.sublist (List.filter_sublist.map _)⟩
  have hcalls := List.pairwise_filter.mp (List.pairwise_map.mp hcalls)
  refine List.pairwise_map.mpr ((hcalls.and h).imp ?_)
  rintro w v ⟨hcalls, ⟨hw, hv⟩ | hne⟩
  · exact hcalls hw hv
  · exact fun hedge => hne (Edge.mk.inj hedge).2

/-- Edges that repeat none of themselves are as many as the different ones, from each topic. -/
theorem nodup_iff_length_filter {edges different : List Edge} (hnodup : different.Nodup)
    (hmem : ∀ e, e ∈ different ↔ e ∈ edges) :
    edges.Nodup ↔ ∀ t, (edges.filter fun e => e.source = t).length =
      (different.filter fun e => e.source = t).length := by
  have hperm : different.Perm edges.dedup :=
    (List.perm_ext_iff_of_nodup hnodup edges.nodup_dedup).mpr fun e => by
      rw [hmem, List.mem_dedup]
  constructor
  · intro h t
    rw [List.dedup_eq_self.mpr h] at hperm
    exact (hperm.filter _).length_eq.symm
  · intro h
    refine List.nodup_iff_count_le_one.mpr fun e => ?_
    have hsame : (edges.dedup.filter fun f => f.source = e.source) =
        edges.filter fun f => f.source = e.source := by
      refine (edges.dedup_sublist.filter _).eq_of_length ?_
      rw [h e.source, (hperm.filter _).length_eq]
    have hnodup : (edges.filter fun f => f.source = e.source).Nodup :=
      hsame ▸ edges.nodup_dedup.filter _
    have hcount : (edges.filter fun f => f.source = e.source).count e = edges.count e :=
      List.count_filter (by simp)
    rw [← hcount]
    exact List.nodup_iff_count_le_one.mp hnodup e

/-- Each edge is recorded once. -/
theorem nodup_downstream_after (registry : Registry) (config : Config) (calls : List Call) :
    (after registry config calls).downstream.Nodup := by
  refine after_induction (P := fun rs => rs.downstream.Nodup)
    (fun _ _ hsame h => hsame.downstream ▸ h) (fun rs file rule deps h => ?_) List.nodup_nil calls
  rcases addRule_cases rs file rule deps with
    ⟨e, made, -, heq⟩ | ⟨t, s, rs', result, hlays, -, heq⟩
  · rw [heq]
    exact h
  · have hkeep : ((rs.use s).connect t.wires).2.downstream.Nodup := by
      refine connect_induction (P := fun rs => rs.downstream.Nodup) (fun rs w _ h _ => ?_) t.wires h
      change (addEdge rs.downstream w.edge).Nodup
      unfold addEdge
      split
      · exact h
      · rename_i hnew
        rw [← List.concat_eq_append]
        exact h.concat (by simpa using hnew)
    rw [hlays.connected] at hkeep
    rw [heq]
    exact hkeep

/-- In every history the subscriptions are the joints between the links of the rules, in order, with
those in front of which a rule was broken off: a message that is published on a topic goes to a node
once for each joint between the two. So it goes to each node once, and a topic has as many
subscribers as nodes recorded behind it, just when no joint into a called rule comes again. -/
theorem subscribed_once_per_joint (registry : Registry) (config : Config) (calls : List Call) :
    let rs := after registry config calls
    rs.issued ≤ 2 ^ 32 →
    ∃ strands : List Strand,
      strands.flatMap Strand.added = rs.rules ∧
      (∀ s ∈ strands, s.rule.JoinedBy rs.rules (s.wires ++ s.left)) ∧
      ((∀ a ∈ (new registry config).attemptsOf calls, ¬a.BreaksOff) →
        ∀ s ∈ strands, s.left = []) ∧
      let joints := strands.flatMap Strand.wires
      (∀ t, rs.bus.subscribers t = (joints.filter fun w => w.topic = t).map Wire.target) ∧
      (∀ t m u, ((rs.bus.deliveries (t, m)).filter fun d => d.subscriber.topic = u).length =
        (joints.map Wire.edge).count ⟨t, u⟩) ∧
      (∀ t, (successors rs.downstream t).Nodup ∧
        ∀ u, u ∈ successors rs.downstream t ↔ ∃ n ∈ rs.bus.subscribers t, n.topic = u) ∧
      (((joints.filter fun w => w.call.isSome).map Wire.edge).Nodup ↔
        ∀ t, (rs.bus.subscribers t).length = (successors rs.downstream t).length) := by
  intro rs hroom
  obtain ⟨strands, h, hwhole⟩ := exists_jointed_after registry config calls hroom
  have hnodup : rs.downstream.Nodup := nodup_downstream_after registry config calls
  have hlength (t : Topic) : (rs.bus.subscribers t).length =
      (((strands.flatMap Strand.wires).map Wire.edge).filter fun e => e.source = t).length := by
    rw [h.subscribers t, List.length_map, List.filter_map, List.length_map]
    rfl
  refine ⟨strands, h.rules, h.joined, hwhole, h.subscribers, fun t m u => ?_,
    fun t => ⟨?_, fun u => ?_⟩, ?_⟩
  · rw [Bus.deliveries, h.subscribers t, List.map_map, List.filter_map, List.length_map,
      List.filter_filter, List.count_eq_length_filter, List.filter_map, List.length_map]
    congr 1
    refine List.filter_congr fun w _ => ?_
    rw [Bool.eq_iff_iff]
    simp [Wire.edge, and_comm]
  · refine (hnodup.filter _).map_on fun e he f hf htarget => ?_
    have hsource : e.source = t ∧ f.source = t :=
      ⟨by simpa using (List.mem_filter.mp he).2, by simpa using (List.mem_filter.mp hf).2⟩
    cases e
    cases f
    simp_all
  · rw [mem_successors, h.edges, h.subscribers t]
    simp [Wire.edge, and_assoc]
  · rw [nodup_edges_iff_of_apart h.apart, nodup_iff_length_filter hnodup h.edges]
    simp only [hlength, successors, List.length_map]

/-- Two rules that call the same two rules one behind the other make two joints between them. -/
theorem subscribed_once_per_joint_called_twice :
    let registry := Registry.empty.addFilter "pass" fun _ => .ok .matched
    let pass (name : String) : Rule := ⟨name, ⟨1, 1⟩, .fragment (.filter "pass" [] false) []⟩
    let both (name : String) : Rule := ⟨name, ⟨1, 1⟩, .fragment (.call "a") [.call "b"]⟩
    let rs := after registry .empty
      ([pass "a", pass "b", both "c", both "d"].map fun r => .addRule ⟨"m"⟩ r [])
    rs.issued ≤ 2 ^ 32 ∧ ∃ strands : List Strand,
      strands.flatMap Strand.added = rs.rules ∧ (∀ s ∈ strands, s.left = []) ∧
      ((strands.flatMap Strand.wires).map Wire.edge).count ⟨⟨"pass:0"⟩, ⟨"pass:1"⟩⟩ = 2 := by
  intro registry pass both rs
  have hroom : rs.issued ≤ 2 ^ 32 := by
    simp only [rs, registry, pass, both]
    cbv
  obtain ⟨strands, hrules, -, hwhole, -, hdeliveries, -⟩ :=
    subscribed_once_per_joint registry .empty _ hroom
  refine ⟨hroom, strands, hrules, hwhole fun a ha => Attempt.Ok.not_breaksOff ?_, ?_⟩
  · have hattempts : a ∈ (new registry .empty).attemptsOf
        ([pass "a", pass "b", both "c", both "d"].map fun r => .addRule ⟨"m"⟩ r []) := ha
    simp only [List.map_cons, List.map_nil, attemptsOf, attempts, List.append_nil,
      List.cons_append, List.nil_append, List.mem_cons, List.not_mem_nil, or_false] at hattempts
    rcases hattempts with rfl | rfl | rfl | rfl
    all_goals
      simp only [Attempt.Ok, Attempt.result, registry, pass, both]
      cbv
  rw [← hdeliveries ⟨"pass:0"⟩ (.ofPayload .null) ⟨"pass:1"⟩]
  simp only [registry, pass, both]
  cbv

/-- A joint between two called rules that comes again subscribes a node twice, where one node is
recorded. -/
theorem repeated_joint_subscribes_twice :
    let registry := Registry.empty.addFilter "pass" fun _ => .ok .matched
    let pass (name : String) : Rule := ⟨name, ⟨1, 1⟩, .fragment (.filter "pass" [] false) []⟩
    let both (name : String) : Rule := ⟨name, ⟨1, 1⟩, .fragment (.call "a") [.call "b"]⟩
    let rs := after registry .empty
      ([pass "a", pass "b", both "c", both "d"].map fun r => .addRule ⟨"m"⟩ r [])
    rs.issued ≤ 2 ^ 32 ∧ (rs.bus.subscribers ⟨"pass:0"⟩).length = 2 ∧
      successors rs.downstream ⟨"pass:0"⟩ = [⟨"pass:1"⟩] := by
  intro registry pass both rs
  simp only [rs, registry, pass, both]
  refine ⟨?_, ?_, ?_⟩ <;> cbv

end Ruleset
end RuleGraph
