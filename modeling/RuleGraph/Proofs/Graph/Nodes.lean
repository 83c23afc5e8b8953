import Mathlib.Data.List.Nodup
import RuleGraph.Proofs.Graph.Subscriptions

/-!
# The nodes of a ruleset

In every history the nodes of the rules have numbers that were given out, in increasing order, and
rules begin and end at such nodes. Edges lead between topics of numbers that were given out. Numbers
of rules that could not be added are missing among the nodes, while edges of a rule may be there
that was refused a thread.
-/
namespace RuleGraph

/-- The first numbers are different as long as there are enough of them. -/
theorem NodeId.nodup_map_nth {k : Nat} (hroom : k ≤ room) : ((List.range k).map nth).Nodup := by
  apply List.Nodup.map_on _ List.nodup_range
  intro m hm n hn heq
  have hm : m < k := List.mem_range.mp hm
  have hn : n < k := List.mem_range.mp hn
  exact nth_injective (by omega) (by omega) heq

/-- A topic whose number is one of the first `k`. -/
def Topic.Given (k : Nat) (t : Topic) : Prop := ∃ n < k, ∃ type, t = .ofNode type (.nth n)

theorem Topic.Given.mono {k l : Nat} {t : Topic} (h : t.Given k) (hle : k ≤ l) : t.Given l := by
  obtain ⟨n, hn, ht⟩ := h
  exact ⟨n, by omega, ht⟩

/-- A number that comes next makes a new topic. -/
theorem Topic.Given.ne {k : Nat} {t : Topic} (h : t.Given k) (hk : k < NodeId.room)
    (type : String) : t ≠ .ofNode type (.nth k) := by
  obtain ⟨n, hn, other, rfl⟩ := h
  intro heq
  have := NodeId.nth_injective (by omega) hk (Topic.ofNode_inj heq).2
  omega

namespace Section

theorem mem_wires {topic : Topic} {sections : List Section} {w : Wire}
    (h : w ∈ wires topic sections) :
    (w.topic = topic ∨ ∃ s ∈ sections, w.topic = s.last.topic) ∧
      ∃ s ∈ sections, w.target = s.first := by
  induction sections generalizing topic with
  | nil => simp [wires] at h
  | cons s rest ih =>
    rcases List.mem_cons.mp h with rfl | h
    · exact ⟨.inl rfl, s, by simp, rfl⟩
    · obtain ⟨htopic, t, ht, htarget⟩ := ih h
      refine ⟨.inr ?_, t, List.mem_cons_of_mem _ ht, htarget⟩
      rcases htopic with htopic | ⟨u, hu, htopic⟩
      · exact ⟨s, by simp, htopic⟩
      · exact ⟨u, List.mem_cons_of_mem _ hu, htopic⟩

end Section

namespace Workshop

variable {w : Workshop} {K : Node → Prop}

/-- Sections begin and end at nodes of their own or of rules that are called. -/
theorem Made.ends {rule : String} {s s' : Supply} {links : List Link} {sections : List Section}
    (h : Made w rule s links sections s')
    (hcallee : ∀ name callee, w.callee? name = some callee → K callee.first ∧ K callee.last)
    (hown : ∀ n ∈ Section.owned sections, K (.filter n)) :
    ∀ t ∈ sections, K (.filter t.first) ∧ K (.filter t.last) := by
  induction h with
  | nil => simp
  | filter _ _ _ ih =>
    intro t ht
    rcases List.mem_cons.mp ht with rfl | ht
    · exact ⟨hown _ List.mem_cons_self, hown _ List.mem_cons_self⟩
    · exact ih (fun n hn => hown n (List.mem_cons_of_mem _ hn)) t ht
  | @call _ _ name callee chain _ _ hvisible hflow _ ih =>
    intro t ht
    rcases List.mem_cons.mp ht with rfl | ht
    · have hends := hcallee name callee hvisible
      rw [CompiledRule.first, CompiledRule.last, hflow] at hends
      exact hends
    · exact ih hown t ht

/-- A rule begins and ends at nodes of its own or of rules that it calls, and so do its wires. -/
theorem MadeRule.ends {rule : Rule} {s s' : Supply} {flow : Flow} {wires : List Wire}
    (h : MadeRule w rule s flow wires s')
    (hcallee : ∀ name callee, w.callee? name = some callee → K callee.first ∧ K callee.last)
    (hown : ∀ n ∈ flow.nodes, K n) :
    (K flow.first ∧ K flow.last) ∧
      ∀ v ∈ wires, (∃ n, K n ∧ n.topic = v.topic) ∧ K (.filter v.target) := by
  cases h with
  | @fragment _ _ head sections _ _ links =>
    have hends := links.ends hcallee fun n hn => hown _ (List.mem_map_of_mem hn)
    refine ⟨⟨(hends head (by simp)).1, (hends _ (List.getLast_mem _)).2⟩, fun v hv => ?_⟩
    obtain ⟨htopic, t, ht, htarget⟩ := Section.mem_wires hv
    refine ⟨?_, htarget ▸ (hends t (List.mem_cons_of_mem _ ht)).1⟩
    rcases htopic with htopic | ⟨u, hu, htopic⟩
    · exact ⟨_, (hends head (by simp)).2, htopic.symm⟩
    · exact ⟨_, (hends u (List.mem_cons_of_mem _ hu)).2, htopic.symm⟩
  | @produced decl _ _ program sections _ _ _ _ links =>
    rw [nodes_produced] at hown
    have hends := links.ends hcallee fun n hn =>
      hown _ (List.mem_cons_of_mem _ (List.mem_map_of_mem hn))
    have hproducer := hown _ List.mem_cons_self
    refine ⟨⟨hproducer, ?_⟩, fun v hv => ?_⟩
    · cases sections with
      | nil => exact hproducer
      | cons head rest => exact (hends _ (List.getLast_mem _)).2
    · obtain ⟨htopic, t, ht, htarget⟩ := Section.mem_wires hv
      refine ⟨?_, htarget ▸ (hends t ht).1⟩
      rcases htopic with htopic | ⟨u, hu, htopic⟩
      · exact ⟨_, hproducer, htopic.symm⟩
      · exact ⟨_, (hends u hu).2, htopic.symm⟩

end Workshop

namespace Ruleset

variable {rs rs' : Ruleset}

theorem callee?_eq_some {file : Path} {deps : List Path} {name : String} {callee : CompiledRule}
    (h : rs.callee? file deps name = some callee) :
    callee ∈ rs.rules ∧ callee.name = name ∧
      (callee.file.same file = true ∨ hasPath deps callee.file = true) := by
  simp only [callee?, rule?, Option.filter_eq_some_iff, Bool.or_eq_true] at h
  obtain ⟨hfound, hvisible⟩ := h
  exact ⟨List.mem_of_find?_eq_some hfound, by simpa using List.find?_some hfound, hvisible⟩

/-- Every subscription keeps the rules, the numbers and what was told. -/
theorem connect_keeps {wires : List Wire} (h : rs.connect wires = (.ok (), rs')) :
    rs'.rules = rs.rules ∧ rs'.next = rs.next ∧ rs'.journal = rs.journal := by
  obtain ⟨bus, downstream, threads, heq⟩ := connect_frame rs wires
  rw [h] at heq
  cases heq
  exact ⟨rfl, rfl, rfl⟩

theorem issued_use (made : List (String × Params)) :
    (rs.use (rs.supply.takeAll made)).issued = rs.issued + made.length := by
  rw [issued, use, constructions_append, Supply.constructions_takeAll]
  simp [supply, constructions, issued]

section Lays

variable {file : Path} {rule : Rule} {deps : List Path} {t : Strand} {s : Supply}

/-- What a rule is built for keeps the rules that are there. -/
theorem Lays.rules (h : rs.Lays file rule deps t s rs') : rs'.rules = rs.rules :=
  (connect_keeps h.connected).1

/-- A rule that is built uses up one number for each of its nodes. -/
theorem Lays.issued (h : rs.Lays file rule deps t s rs') :
    rs'.issued = rs.issued + t.rule.nodes.length := by
  obtain ⟨made, rfl, hlength⟩ := h.made.exists_takeAll
  obtain ⟨-, -, hjournal⟩ := connect_keeps h.connected
  rw [Ruleset.issued, hjournal, CompiledRule.nodes, ← hlength]
  exact issued_use made

theorem Lays.next (h : rs.Lays file rule deps t s rs') (hnext : rs.next = .nth rs.issued) :
    rs'.next = .nth rs'.issued := by
  obtain ⟨made, rfl, hlength⟩ := h.made.exists_takeAll
  obtain ⟨-, hkept, -⟩ := connect_keeps h.connected
  rw [hkept, h.issued, CompiledRule.nodes, ← hlength]
  exact Supply.next_takeAll hnext made

/-- The nodes of a rule that is built take the numbers that come next. -/
theorem Lays.ids (h : rs.Lays file rule deps t s rs') (hnext : rs.next = .nth rs.issued) :
    t.rule.nodes.map Node.id =
      (List.range' rs.issued t.rule.nodes.length).map NodeId.nth :=
  h.made.ids hnext

end Lays

theorem issued_le_addRule (rs : Ruleset) (file : Path) (rule : Rule) (deps : List Path) :
    rs.issued ≤ (rs.addRule file rule deps).2.issued := by
  rcases addRule_cases rs file rule deps with
    ⟨e, made, -, heq⟩ | ⟨t, s, rs', result, hlays, -, heq⟩
  · rw [heq, issued_use]
    exact Nat.le_add_right _ _
  · have hadded : (rs.addRule file rule deps).2.issued = rs'.issued := by
      rw [heq]
      rfl
    rw [hadded, hlays.issued]
    exact Nat.le_add_right _ _

/-- The nodes of the rules have numbers that were given out, in increasing order. -/
structure Numbered (rs : Ruleset) : Prop where
  next : rs.next = .nth rs.issued
  ids : ∃ ks : List Nat, ks.Sublist (List.range rs.issued) ∧
    rs.nodes.map Node.id = ks.map NodeId.nth

theorem Numbered.congr (h : rs.Numbered) (hnext : rs'.next = rs.next)
    (hissued : rs'.issued = rs.issued) (hrules : rs'.rules = rs.rules) : rs'.Numbered := by
  refine ⟨by rw [hnext, hissued]; exact h.next, ?_⟩
  rw [hissued, nodes, hrules]
  exact h.ids

theorem Numbered.use (h : rs.Numbered) (made : List (String × Params)) :
    (rs.use (rs.supply.takeAll made)).Numbered := by
  obtain ⟨ks, hks, hids⟩ := h.ids
  refine ⟨?_, ks, ?_, hids⟩
  · rw [issued_use]
    exact Supply.next_takeAll h.next made
  · rw [issued_use]
    exact hks.trans (List.range_sublist.mpr (by omega))

theorem nodes_added {rs : Ruleset} {t : Strand} :
    ({ rs with rules := rs.rules ++ t.added } : Ruleset).nodes =
      rs.nodes ++ t.added.flatMap CompiledRule.nodes := by
  rw [nodes, nodes, List.flatMap_append]

theorem Strand.nodes_added (t : Strand) :
    t.added.flatMap CompiledRule.nodes = if t.left.isEmpty then t.rule.nodes else [] := by
  unfold added
  split <;> simp

theorem Numbered.addRule (h : rs.Numbered) (file : Path) (rule : Rule) (deps : List Path) :
    (rs.addRule file rule deps).2.Numbered := by
  rcases addRule_cases rs file rule deps with
    ⟨e, made, -, heq⟩ | ⟨t, s, rs', result, hlays, -, heq⟩
  · rw [heq]
    exact h.use made
  · have hissued := hlays.issued
    obtain ⟨ks, hks, hids⟩ := h.ids
    have hold : rs'.nodes = rs.nodes := by rw [nodes, hlays.rules, nodes]
    have hranges : List.range rs'.issued =
        List.range rs.issued ++ List.range' rs.issued t.rule.nodes.length := by
      rw [hissued, List.range_eq_range', ← List.range'_append_1, ← List.range_eq_range',
        Nat.zero_add]
    have hnew : ((t.added.flatMap CompiledRule.nodes).map Node.id) =
        (if t.left.isEmpty then List.range' rs.issued t.rule.nodes.length else []).map
          NodeId.nth := by
      rw [t.nodes_added]
      split
      · exact hlays.ids h.next
      · rfl
    rw [heq]
    refine ⟨hlays.next h.next, ks ++ (if t.left.isEmpty then
      List.range' rs.issued t.rule.nodes.length else []), ?_, ?_⟩
    · change List.Sublist _ (List.range rs'.issued)
      rw [hranges]
      refine hks.append ?_
      split
      · exact List.Sublist.refl _
      · exact List.nil_sublist _
    · rw [nodes_added, hold, List.map_append, hids, hnew, ← List.map_append]

/-- Rules begin and end at nodes of rules, and edges lead between topics of numbers that were given
out. -/
structure Grounded (rs : Ruleset) : Prop where
  ends : ∀ r ∈ rs.rules, r.first ∈ rs.nodes ∧ r.last ∈ rs.nodes
  edges : ∀ e ∈ rs.downstream, e.source.Given rs.issued ∧ e.target.Given rs.issued

theorem Grounded.congr (h : rs.Grounded) (hrules : rs'.rules = rs.rules)
    (hdownstream : rs'.downstream = rs.downstream) (hissued : rs.issued ≤ rs'.issued) :
    rs'.Grounded := by
  have hnodes : rs'.nodes = rs.nodes := by rw [nodes, hrules, nodes]
  refine ⟨by rw [hrules, hnodes]; exact h.ends, fun e he => ?_⟩
  rw [hdownstream] at he
  exact ⟨(h.edges e he).1.mono hissued, (h.edges e he).2.mono hissued⟩

theorem Numbered.topic_given (h : rs.Numbered) {n : Node} (hn : n ∈ rs.nodes) :
    n.topic.Given rs.issued := by
  obtain ⟨ks, hks, hids⟩ := h.ids
  obtain ⟨k, hk, hid⟩ := List.mem_map.mp (hids ▸ List.mem_map_of_mem hn)
  exact ⟨k, by simpa using hks.mem hk, n.type, by rw [n.topic_eq, hid]⟩

/-- A rule that is built begins and ends at nodes of its own or of rules that it calls, and so do
its wires. -/
theorem Lays.ends {file : Path} {rule : Rule} {deps : List Path} {t : Strand} {s : Supply}
    (h : rs.Lays file rule deps t s rs') (hgrounded : rs.Grounded) :
    (t.rule.first ∈ rs.nodes ++ t.rule.nodes ∧ t.rule.last ∈ rs.nodes ++ t.rule.nodes) ∧
      ∀ v ∈ t.wires ++ t.left, (∃ n ∈ rs.nodes ++ t.rule.nodes, n.topic = v.topic) ∧
        Node.filter v.target ∈ rs.nodes ++ t.rule.nodes :=
  h.made.ends (K := fun n => n ∈ rs.nodes ++ t.rule.nodes)
    (fun _ callee hcallee =>
      have hends := hgrounded.ends callee (callee?_eq_some hcallee).1
      ⟨List.mem_append_left _ hends.1, List.mem_append_left _ hends.2⟩)
    (fun _ hn => List.mem_append_right _ hn)

theorem Lays.topic_given {file : Path} {rule : Rule} {deps : List Path} {t : Strand} {s : Supply}
    (h : rs.Lays file rule deps t s rs') (hnumbered : rs.Numbered) {n : Node}
    (hn : n ∈ rs.nodes ++ t.rule.nodes) : n.topic.Given rs'.issued := by
  rw [h.issued]
  rcases List.mem_append.mp hn with hn | hn
  · exact (hnumbered.topic_given hn).mono (Nat.le_add_right _ _)
  · obtain ⟨k, hk, hid⟩ := List.mem_map.mp (h.ids hnumbered.next ▸ List.mem_map_of_mem hn)
    exact ⟨k, (List.mem_range'_1.mp hk).2, n.type, by rw [n.topic_eq, hid]⟩

theorem Grounded.addRule (h : rs.Grounded) (hnumbered : rs.Numbered) (file : Path) (rule : Rule)
    (deps : List Path) : (rs.addRule file rule deps).2.Grounded := by
  rcases addRule_cases rs file rule deps with
    ⟨e, made, -, heq⟩ | ⟨t, s, rs', result, hlays, -, heq⟩
  · rw [heq]
    exact h.congr rfl rfl (issued_use made ▸ Nat.le_add_right _ _)
  · obtain ⟨hends, hwires⟩ := hlays.ends h
    have hrules : rs'.rules = rs.rules := hlays.rules
    have hold : rs'.nodes = rs.nodes := by rw [nodes, hrules, nodes]
    rw [heq]
    constructor
    · intro r hr
      rw [nodes_added, hold, t.nodes_added]
      rcases List.mem_append.mp hr with hr | hr
      · rw [hrules] at hr
        exact ⟨List.mem_append_left _ (h.ends r hr).1, List.mem_append_left _ (h.ends r hr).2⟩
      · obtain ⟨hleft, rfl⟩ := Strand.mem_added.mp hr
        rw [hleft]
        exact hends
    · intro e he
      change e.source.Given rs'.issued ∧ e.target.Given rs'.issued
      rcases List.mem_append.mp ((mem_downstream_connect hlays.connected).mp he) with he | he
      · have hle : rs.issued ≤ rs'.issued := hlays.issued ▸ Nat.le_add_right _ _
        exact ⟨(h.edges e he).1.mono hle, (h.edges e he).2.mono hle⟩
      · obtain ⟨v, hv, rfl⟩ := List.mem_map.mp he
        obtain ⟨⟨n, hn, hsource⟩, htarget⟩ := hwires v (List.mem_append_left _ hv)
        have hsource : n.topic = v.edge.source := hsource
        exact ⟨hsource ▸ hlays.topic_given hnumbered hn, hlays.topic_given hnumbered htarget⟩

theorem numbered_new (registry : Registry) (config : Config) : (new registry config).Numbered :=
  ⟨rfl, [], by simp, rfl⟩

theorem numbered_after (registry : Registry) (config : Config) (calls : List Call) :
    (after registry config calls).Numbered :=
  after_induction (fun _ _ hsame h => h.congr hsame.next hsame.issued hsame.rules)
    (fun _ file rule deps h => h.addRule file rule deps) (numbered_new registry config) calls

theorem grounded_after (registry : Registry) (config : Config) (calls : List Call) :
    (after registry config calls).Grounded := by
  refine (after_induction (P := fun rs => rs.Numbered ∧ rs.Grounded)
    (fun _ _ hsame h => ⟨h.1.congr hsame.next hsame.issued hsame.rules,
      h.2.congr hsame.rules hsame.downstream (Nat.le_of_eq hsame.issued.symm)⟩)
    (fun _ file rule deps h => ⟨h.1.addRule file rule deps, h.2.addRule h.1 file rule deps⟩)
    ⟨numbered_new registry config, ⟨?_, ?_⟩⟩ calls).2
  · simp [new]
  · simp [new]

theorem Numbered.length_le (h : rs.Numbered) : rs.nodes.length ≤ rs.issued := by
  obtain ⟨ks, hks, hids⟩ := h.ids
  have hlength := congrArg List.length hids
  rw [List.length_map, List.length_map] at hlength
  rw [hlength, ← List.length_range (n := rs.issued)]
  exact hks.length_le

theorem Numbered.nodup_ids (h : rs.Numbered) (hroom : rs.issued ≤ NodeId.room) :
    (rs.nodes.map Node.id).Nodup := by
  obtain ⟨ks, hks, hids⟩ := h.ids
  rw [hids]
  exact (NodeId.nodup_map_nth hroom).sublist (hks.map NodeId.nth)

end Ruleset
end RuleGraph
