import Mathlib
import RuleGraph.Proofs.Graph.Attempts

/-!
# Numbers and topics tell nodes apart

All nodes that are ever built are listed here, those of rules that could not be added among them.
Each takes the number that comes next, whatever becomes of its rule, and no number is given back. So
the numbers of the list go up one by one, and as long as they do not run out, no two nodes have one
number or one topic.
-/
namespace RuleGraph

def Node.params : Node → Params
  | .producer n => n.params
  | .filter n => n.params

/-- From one supply to another, nodes are built that take the numbers on the way. -/
inductive Supply.Numbers : Supply → List Node → Supply → Prop
  | nil {s : Supply} : Numbers s [] s
  | cons {s s' : Supply} {n : Node} {ns : List Node} (id : n.id = s.next)
      (rest : Numbers (s.take n.type n.params) ns s') : Numbers s (n :: ns) s'

namespace Supply.Numbers

variable {s s' : Supply} {ns : List Node}

theorem exists_takeAll (h : s.Numbers ns s') :
    ∃ made, made.length = ns.length ∧ s' = s.takeAll made := by
  induction h with
  | nil => exact ⟨[], rfl, rfl⟩
  | @cons s s' n ns id _ ih =>
    obtain ⟨made, hlength, hmade⟩ := ih
    exact ⟨(n.type, n.params) :: made, by simp [hlength], hmade⟩

theorem ids (h : s.Numbers ns s') {k : Nat} (hnext : s.next = .nth k) :
    ns.map Node.id = (List.range' k ns.length).map NodeId.nth := by
  induction h generalizing k with
  | nil => rfl
  | cons id _ ih =>
    rw [List.map_cons, List.length_cons, List.range'_succ, List.map_cons, id, hnext,
      ih (next_take hnext _ _)]

end Supply.Numbers

/-! ### The nodes that a rule builds -/

namespace Workshop

variable {w : Workshop} {rule : String}

/-- The filters that are built for links, up to the first one that fails. -/
def builtByLinks (w : Workshop) (rule : String) : List Link → Supply → List FilterNode
  | [], _ => []
  | link :: links, s =>
    match w.buildLink rule link s with
    | (.error _, _) => []
    | (.ok section_, s) => section_.own?.toList ++ builtByLinks w rule links s

/-- The nodes that are built for a rule, up to the first link that fails. -/
def builtByRule (w : Workshop) (rule : Rule) (s : Supply) : List Node :=
  match rule.body with
  | .fragment first rest => (w.builtByLinks rule.name (first :: rest) s).map .filter
  | .produced decl links =>
    match w.buildProducer rule.name decl s with
    | (.error _, _) => []
    | (.ok producer, s) =>
      .producer producer :: (w.builtByLinks rule.name links s).map .filter

/-- A filter is not built, or takes the next number. -/
theorem buildFilter_cases (rule type : String) (written : List Param) (negated : Bool)
    (s : Supply) :
    (∃ e, w.buildFilter rule type written negated s = (.error e, s)) ∨
    ∃ node : FilterNode, node.id = s.next ∧
      w.buildFilter rule type written negated s = (.ok node, s.take node.type node.params) := by
  cases hknown : w.registry.filter? type with
  | none => exact .inl ⟨.unknownFilter type, by simp [buildFilter, hknown]⟩
  | some factory =>
    cases hfactory : factory (w.config.nodeParams type written) with
    | error e => exact .inl ⟨.construction type e, by simp [buildFilter, hknown, hfactory]⟩
    | ok react =>
      exact .inr ⟨⟨s.next, type, rule, w.config.nodeParams type written, negated, react⟩, rfl,
        by simp [buildFilter, hknown, hfactory]⟩

/-- A producer is not built, or takes the next number. -/
theorem buildProducer_cases (rule : String) (decl : ProducerDecl) (s : Supply) :
    (∃ e, w.buildProducer rule decl s = (.error e, s)) ∨
    ∃ node : ProducerNode, node.id = s.next ∧
      w.buildProducer rule decl s = (.ok node, s.take node.type node.params) := by
  cases hknown : w.registry.producer? decl.name with
  | none => exact .inl ⟨.unknownProducer decl.name, by simp [buildProducer, hknown]⟩
  | some factory =>
    cases hfactory : factory (w.config.nodeParams decl.name decl.params) with
    | error e =>
      exact .inl ⟨.construction decl.name e, by simp [buildProducer, hknown, hfactory]⟩
    | ok program =>
      exact .inr ⟨⟨s.next, decl.name, rule, w.config.nodeParams decl.name decl.params, program⟩,
        rfl, by simp [buildProducer, hknown, hfactory]⟩

/-- A link fails without a node, or is a filter with the next number, or calls a rule. -/
theorem buildLink_cases (rule : String) (link : Link) (s : Supply) :
    (∃ e, w.buildLink rule link s = (.error e, s)) ∨
    (∃ node : FilterNode, node.id = s.next ∧
      w.buildLink rule link s = (.ok (.filter node), s.take node.type node.params)) ∨
    ∃ name first last, w.buildLink rule link s = (.ok (.call name first last), s) := by
  cases link with
  | filter type written negated =>
    rcases buildFilter_cases (w := w) rule type written negated s with
      ⟨e, hfilter⟩ | ⟨node, hid, hfilter⟩
    · exact .inl ⟨e, by rw [buildLink, hfilter]⟩
    · exact .inr (.inl ⟨node, hid, by rw [buildLink, hfilter]⟩)
  | call name =>
    rw [buildLink]
    cases hsection : w.callSection name with
    | error e => exact .inl ⟨e, rfl⟩
    | ok section_ =>
      obtain ⟨callee, chain, -, -, rfl⟩ := callSection_eq_ok_iff.mp hsection
      exact .inr (.inr ⟨name, chain.first, chain.last, rfl⟩)

theorem numbers_builtByLinks (rule : String) (links : List Link) (s : Supply) :
    s.Numbers ((w.builtByLinks rule links s).map .filter) (w.buildLinks rule links s).2 := by
  induction links generalizing s with
  | nil => exact .nil
  | cons link links ih =>
    rw [builtByLinks, buildLinks]
    rcases buildLink_cases (w := w) rule link s with
      ⟨e, hlink⟩ | ⟨node, hid, hlink⟩ | ⟨name, first, last, hlink⟩
    · rw [hlink]
      exact .nil
    · have hrest := ih (s.take node.type node.params)
      rw [hlink]
      dsimp only
      generalize w.buildLinks rule links (s.take node.type node.params) = result at hrest
      obtain ⟨_ | sections, s'⟩ := result
      · exact .cons hid hrest
      · exact .cons hid hrest
    · have hrest := ih s
      rw [hlink]
      dsimp only
      generalize w.buildLinks rule links s = result at hrest
      obtain ⟨_ | sections, s'⟩ := result
      · exact hrest
      · exact hrest

theorem Made.builtByLinks_eq {s s' : Supply} {links : List Link} {sections : List Section}
    (h : Made w rule s links sections s') :
    w.builtByLinks rule links s = Section.owned sections := by
  induction h with
  | nil => rfl
  | @filter s _ type written negated _ react _ _ known accepted _ ih =>
    have hlink : w.buildLink rule (.filter type written negated) s =
        (.ok (.filter ⟨s.next, type, rule, w.config.nodeParams type written, negated, react⟩),
          s.take type (w.config.nodeParams type written)) :=
      buildLink_eq_ok_iff.mpr (.filter known accepted .nil)
    rw [builtByLinks, hlink, Section.owned_filter]
    exact congrArg _ ih
  | @call s _ name _ chain _ _ visible fragment _ ih =>
    have hlink : w.buildLink rule (.call name) s =
        (.ok (.call name chain.first chain.last), s) :=
      buildLink_eq_ok_iff.mpr (.call visible fragment .nil)
    rw [builtByLinks, hlink, Section.owned_call]
    exact ih

theorem numbers_builtByRule (rule : Rule) (s : Supply) :
    s.Numbers (w.builtByRule rule s) (w.buildRule rule s).2 := by
  unfold builtByRule buildRule
  cases rule.body with
  | fragment first rest =>
    have hlinks := numbers_builtByLinks (w := w) rule.name (first :: rest) s
    rw [buildLinks] at hlinks
    dsimp only
    generalize w.buildLink rule.name first s = result at hlinks ⊢
    obtain ⟨_ | head, s₁⟩ := result
    · exact hlinks
    · dsimp only at hlinks ⊢
      generalize w.buildLinks rule.name rest s₁ = result at hlinks ⊢
      obtain ⟨_ | sections, s₂⟩ := result
      · exact hlinks
      · exact hlinks
  | produced decl links =>
    dsimp only
    rcases buildProducer_cases (w := w) rule.name decl s with
      ⟨e, hproducer⟩ | ⟨node, hid, hproducer⟩
    · rw [hproducer]
      exact .nil
    · have hlinks := numbers_builtByLinks (w := w) rule.name links
        (s.take node.type node.params)
      rw [hproducer]
      dsimp only
      generalize w.buildLinks rule.name links (s.take node.type node.params) = result at hlinks ⊢
      obtain ⟨_ | sections, s₂⟩ := result
      · exact .cons hid hlinks
      · exact .cons hid hlinks

theorem MadeRule.builtByRule_eq {rule : Rule} {s s' : Supply} {flow : Flow} {wires : List Wire}
    (h : MadeRule w rule s flow wires s') : w.builtByRule rule s = flow.nodes := by
  cases h with
  | fragment body links =>
    rw [nodes_fragment, builtByRule, body]
    dsimp only
    rw [links.builtByLinks_eq]
  | @produced decl _ _ program _ _ body known accepted links =>
    have hproducer : w.buildProducer rule.name decl s =
        (.ok ⟨s.next, decl.name, rule.name, w.config.nodeParams decl.name decl.params, program⟩,
          s.take decl.name (w.config.nodeParams decl.name decl.params)) :=
      buildProducer_eq_ok_iff.mpr ⟨_, _, known, accepted, rfl, rfl⟩
    rw [nodes_produced, builtByRule, body]
    dsimp only
    rw [hproducer]
    dsimp only
    rw [links.builtByLinks_eq]

end Workshop

namespace Ruleset

variable {rs rs' rs'' : Ruleset} {ns ms : List Node} {as : List Attempt}

/-! ### The nodes that attempts build -/

/-- The nodes that are built in an attempt. -/
def Attempt.built (a : Attempt) : List Node :=
  if a.rule.name.isEmpty || (a.rs.rule? a.rule.name).isSome then []
  else (a.rs.workshop a.file a.deps).builtByRule a.rule a.rs.supply

/-- All nodes that calls on a ruleset build. -/
def builtBy (rs : Ruleset) (calls : List Call) : List Node :=
  (rs.attemptsOf calls).flatMap Attempt.built

/-- The nodes that calls build for rules which are not added. -/
def lostBy (rs : Ruleset) (calls : List Call) : List Node :=
  (rs.attemptsOf calls).flatMap fun a => if a.result.1.isOk then [] else a.built

/-- Nodes are built with the numbers that come next, and some of them come to the ruleset. -/
structure Builds (rs : Ruleset) (ns : List Node) (rs' : Ruleset) : Prop where
  issued : rs'.issued = rs.issued + ns.length
  ids : ∀ k, rs.next = .nth k → ns.map Node.id = (List.range' k ns.length).map NodeId.nth
  next : ∀ k, rs.next = .nth k → rs'.next = .nth (k + ns.length)
  nodes : ∃ kept, kept.Sublist ns ∧ rs'.nodes = rs.nodes ++ kept

theorem SameGraph.builds (h : SameGraph rs rs') : rs.Builds [] rs' := by
  refine ⟨h.issued, fun _ _ => rfl, fun k hk => h.next.trans hk, [], .slnil, ?_⟩
  rw [nodes, h.rules, List.append_nil, nodes]

theorem Builds.append (h : rs.Builds ns rs') (h' : rs'.Builds ms rs'') :
    rs.Builds (ns ++ ms) rs'' := by
  constructor
  · rw [h'.issued, h.issued, List.length_append, Nat.add_assoc]
  · intro k hk
    rw [List.map_append, h.ids k hk, h'.ids _ (h.next k hk), ← List.map_append,
      List.range'_append_1, List.length_append]
  · intro k hk
    rw [h'.next _ (h.next k hk), List.length_append, Nat.add_assoc]
  · obtain ⟨kept, hsub, hnodes⟩ := h.nodes
    obtain ⟨kept', hsub', hnodes'⟩ := h'.nodes
    exact ⟨kept ++ kept', hsub.append hsub', by rw [hnodes', hnodes, List.append_assoc]⟩

/-- What numbers nodes keeps the nodes that a ruleset has. -/
theorem builds_use {s : Supply} (h : rs.supply.Numbers ns s) : rs.Builds ns (rs.use s) := by
  obtain ⟨made, hlength, rfl⟩ := h.exists_takeAll
  refine ⟨hlength ▸ issued_use made, fun k hk => h.ids hk, fun k hk => ?_, [], List.nil_sublist _,
    ?_⟩
  · exact hlength ▸ Supply.next_takeAll hk made
  · rw [List.append_nil]
    rfl

/-- What keeps rules and numbers keeps what was built. -/
theorem Builds.congr (h : rs.Builds ns rs') (hrules : rs''.rules = rs'.rules)
    (hnext : rs''.next = rs'.next) (hjournal : rs''.journal = rs'.journal) :
    rs.Builds ns rs'' := by
  refine ⟨?_, h.ids, fun k hk => hnext.trans (h.next k hk), ?_⟩
  · rw [Ruleset.issued, hjournal]
    exact h.issued
  · rw [Ruleset.nodes, hrules]
    exact h.nodes

/-- Connecting wires, as far as it goes, keeps what was built. -/
theorem builds_connect {s : Supply} (h : rs.supply.Numbers ns s) (wires : List Wire) :
    rs.Builds ns ((rs.use s).connect wires).2 := by
  obtain ⟨bus, downstream, threads, heq⟩ := connect_frame (rs.use s) wires
  rw [heq]
  exact (builds_use h).congr rfl rfl rfl

/-- A rule that comes in brings the nodes that were built for it. -/
theorem nodes_connect {file : Path} {rule : Rule} {flow : Flow} {wires : List Wire} {s : Supply}
    (hconnect : (rs.use s).connect wires = (.ok (), rs')) :
    ({ rs' with rules := rs'.rules ++ [⟨rule.name, file, flow⟩] } : Ruleset).nodes =
      rs.nodes ++ flow.nodes := by
  have hrules : rs'.rules = rs.rules := (connect_keeps hconnect).1
  simp [nodes, hrules, CompiledRule.nodes]

theorem builds_install {file : Path} {rule : Rule} {flow : Flow} {wires : List Wire} {s : Supply}
    (h : rs.supply.Numbers flow.nodes s)
    (hconnect : (rs.use s).connect wires = (.ok (), rs')) :
    rs.Builds flow.nodes { rs' with rules := rs'.rules ++ [⟨rule.name, file, flow⟩] } := by
  have hconnected := builds_connect h wires
  rw [hconnect] at hconnected
  exact ⟨hconnected.issued, hconnected.ids, hconnected.next,
    flow.nodes, List.Sublist.refl _, nodes_connect hconnect⟩

theorem builds_tryRule (a : Attempt) :
    a.rs.Builds a.built (a.rs.tryRule a.file a.rule a.deps).2 ∧
      ((a.rs.tryRule a.file a.rule a.deps).1 = .ok () →
        (a.rs.tryRule a.file a.rule a.deps).2.nodes = a.rs.nodes ++ a.built) := by
  obtain ⟨rs, file, rule, deps⟩ := a
  unfold tryRule Attempt.built
  by_cases hempty : rule.name.isEmpty
  · simpa [hempty] using (SameGraph.refl rs).builds
  by_cases hdup : (rs.rule? rule.name).isSome
  · simpa [hempty, hdup] using (SameGraph.refl rs).builds
  have hnumbers := Workshop.numbers_builtByRule (w := rs.workshop file deps) rule rs.supply
  simp only [hempty, hdup, Bool.or_self, if_false, Bool.false_eq_true]
  cases hbuild : (rs.workshop file deps).buildRule rule rs.supply with
  | mk outcome s =>
    rw [hbuild] at hnumbers
    cases outcome with
    | error e => exact ⟨builds_use hnumbers, by simp⟩
    | ok built =>
      obtain ⟨flow, wires⟩ := built
      have hnodes := (Workshop.buildRule_eq_ok_iff.mp hbuild).builtByRule_eq
      simp only [hnodes, install] at hnumbers ⊢
      split
      · exact ⟨builds_use hnumbers, by simp⟩
      · split
        · rename_i hconnect
          have hconnected := builds_connect hnumbers wires
          rw [hconnect] at hconnected
          exact ⟨hconnected, by simp⟩
        · rename_i hconnect
          exact ⟨builds_install hnumbers hconnect, fun _ => nodes_connect hconnect⟩

/-- An attempt numbers the nodes that it builds, and all of them come to the ruleset if it
succeeds. -/
theorem Attempt.builds (a : Attempt) :
    a.rs.Builds a.built a.result.2 ∧ (a.Ok → a.result.2.nodes = a.rs.nodes ++ a.built) := by
  have htry := builds_tryRule a
  unfold Attempt.Ok Attempt.result addRule
  generalize a.rs.tryRule a.file a.rule a.deps = result at htry
  obtain ⟨e | _, rs'⟩ := result
  · exact ⟨htry.1, by simp⟩
  · exact htry

theorem Attempted.builds (h : Attempted rs as rs') :
    rs.Builds (as.flatMap Attempt.built) rs' := by
  induction h with
  | done same => exact same.builds
  | @next rs rs' a as same _ ih => exact same.builds.append (a.builds.1.append ih)

/-- Attempts that all succeed leave all nodes that they build. -/
theorem Attempted.nodes_of_ok (h : Attempted rs as rs') (hok : ∀ a ∈ as, a.Ok) :
    rs'.nodes = rs.nodes ++ as.flatMap Attempt.built := by
  induction h with
  | done same => simp [nodes, same.rules]
  | @next rs rs' a as same _ ih =>
    have hsame : a.rs.nodes = rs.nodes := by rw [nodes, same.rules, nodes]
    rw [ih fun b hb => hok b (List.mem_cons_of_mem _ hb),
      a.builds.2 (hok a List.mem_cons_self), hsame, List.flatMap_cons, List.append_assoc]

/-- An attempt that fails adds no rule. -/
theorem Attempt.rules_of_error {a : Attempt} (h : ¬a.Ok) : a.result.2.rules = a.rs.rules := by
  rcases addRule_cases a.rs a.file a.rule a.deps with
    ⟨e, made, -, heq⟩ | ⟨t, s, rs', result, hlays, hending, heq⟩
  · rw [result, heq]
    rfl
  · rw [Ok, Attempt.result, heq] at h
    rw [Attempt.result, heq]
    cases hending with
    | whole left => exact absurd rfl h
    | torn left isOpen refused => simp [Strand.added, left, hlays.rules]

/-- The nodes of the rules, with those of rules that were not added, are all that were built. -/
theorem perm_builtBy (registry : Registry) (config : Config) (calls : List Call) :
    ((after registry config calls).nodes ++ (new registry config).lostBy calls).Perm
      ((new registry config).builtBy calls) := by
  refine attempts_induction (P := fun as rs =>
    (rs.nodes ++ as.flatMap fun a => if a.result.1.isOk then [] else a.built).Perm
      (as.flatMap Attempt.built)) (fun as rs rs' hsame h => ?_) (fun as a h => ?_) .nil calls
  · rwa [nodes, hsame.rules]
  · rw [List.flatMap_append, List.flatMap_append, List.flatMap_singleton, List.flatMap_singleton]
    cases hresult : a.result.1 with
    | ok =>
      rw [a.builds.2 hresult, Except.isOk, Except.toBool, if_pos rfl, List.append_nil,
        List.append_assoc]
      exact ((List.perm_append_comm.append_left _).trans (.of_eq (List.append_assoc ..).symm)).trans
        (h.append_right _)
    | error e =>
      have hnodes : a.result.2.nodes = a.rs.nodes := by
        rw [nodes, Attempt.rules_of_error (by simp [Attempt.Ok, hresult]), nodes]
      rw [hnodes, Except.isOk, Except.toBool, if_neg Bool.false_ne_true, ← List.append_assoc]
      exact h.append_right _

/-! ### Histories -/

/-- Each of a sequence of calls succeeds. -/
def AllSucceed (rs : Ruleset) : List Call → Prop
  | [] => True
  | c :: rest => rs.Succeeds c ∧ AllSucceed (rs.call c) rest

theorem AllSucceed.attemptsOf {calls : List Call} (h : rs.AllSucceed calls) :
    ∀ a ∈ rs.attemptsOf calls, a.Ok := by
  induction calls generalizing rs with
  | nil => simp [Ruleset.attemptsOf]
  | cons c rest ih =>
    intro a ha
    rcases List.mem_append.mp ha with ha | ha
    · exact h.1.attempts a ha
    · exact ih h.2 a ha

theorem builds_after (registry : Registry) (config : Config) (calls : List Call) :
    (new registry config).Builds ((new registry config).builtBy calls)
      (after registry config calls) :=
  (attempted_calls calls (new registry config)).builds

theorem builtBy_append (earlier later : List Call) (rs : Ruleset) :
    rs.builtBy (earlier ++ later) =
      rs.builtBy earlier ++ (earlier.foldl call rs).builtBy later := by
  rw [builtBy, attemptsOf_append, List.flatMap_append, builtBy, builtBy]

theorem issued_eq_length_builtBy (registry : Registry) (config : Config) (calls : List Call) :
    (after registry config calls).issued = ((new registry config).builtBy calls).length := by
  rw [(builds_after registry config calls).issued]
  exact Nat.zero_add _

theorem map_id_builtBy (registry : Registry) (config : Config) (calls : List Call) :
    ((new registry config).builtBy calls).map Node.id =
      (List.range (after registry config calls).issued).map NodeId.nth := by
  rw [(builds_after registry config calls).ids 0 rfl, issued_eq_length_builtBy,
    List.range_eq_range']

/-- Nodes with different numbers have different topics, whatever their types. -/
theorem nodup_topics {ns : List Node} (h : (ns.map Node.id).Nodup) :
    (ns.map Node.topic).Nodup := by
  rw [List.Nodup, List.pairwise_map] at h ⊢
  apply h.imp
  intro n n' hne htopic
  rw [n.topic_eq, n'.topic_eq] at htopic
  exact hne (Topic.ofNode_inj htopic).2

/-- Where there are enough numbers, they are read off in order. -/
theorem map_toNat_nth {k : Nat} (hroom : k ≤ NodeId.room) :
    ((List.range k).map NodeId.nth).map (fun id => id.number.toNat) = List.range k := by
  rw [List.map_map]
  calc (List.range k).map ((fun id : NodeId => id.number.toNat) ∘ NodeId.nth)
      = (List.range k).map id := by
        apply List.map_congr_left
        intro n hn
        have hn : n < k := List.mem_range.mp hn
        exact UInt32.toNat_ofNat_of_lt' (show n < UInt32.size from Nat.lt_of_lt_of_le hn hroom)
    _ = List.range k := List.map_id _

/-- In every history that gives out no more numbers than there are, all nodes that were ever built
differ in their numbers and in their topics, and those of the rules are among them. What was used up
in earlier calls, by rules that were added or not, is not used in later ones. If all calls succeed,
the nodes of the rules are numbered in order, from zero on and without a gap. The counter is the
number of nodes, and begins anew when all numbers are used up. -/
theorem topics_tell_nodes_apart (registry : Registry) (config : Config) (calls : List Call)
    (hroom : (after registry config calls).issued ≤ 2 ^ 32) :
    let rs := after registry config calls
    let built := (new registry config).builtBy calls
    (built.map Node.id).Nodup ∧ (built.map Node.topic).Nodup ∧ built.length = rs.issued ∧
    rs.next.number = UInt32.ofNat rs.issued ∧ rs.nodes.Sublist built ∧
    (∀ earlier later, calls = earlier ++ later →
      ∀ n ∈ (new registry config).builtBy earlier,
        ∀ n' ∈ (after registry config earlier).builtBy later,
          n.id ≠ n'.id ∧ n.topic ≠ n'.topic) ∧
    ((new registry config).AllSucceed calls →
      rs.nodes = built ∧ rs.nodes.map (fun n => n.id.number.toNat) = List.range rs.issued) := by
  intro rs built
  have hbuilds : (new registry config).Builds built rs := builds_after registry config calls
  have hids : built.map Node.id = (List.range rs.issued).map NodeId.nth :=
    map_id_builtBy registry config calls
  have hnodup : (built.map Node.id).Nodup := hids ▸ NodeId.nodup_map_nth hroom
  have htopics : (built.map Node.topic).Nodup := nodup_topics hnodup
  refine ⟨hnodup, htopics, (issued_eq_length_builtBy registry config calls).symm,
    congrArg NodeId.number (numbered_after registry config calls).next, ?_, ?_, ?_⟩
  · obtain ⟨kept, hsub, hnodes⟩ := hbuilds.nodes
    rw [hnodes]
    exact hsub
  · intro earlier later hsplit n hn n' hn'
    have happend : built = (new registry config).builtBy earlier ++
        (after registry config earlier).builtBy later := by
      rw [after, ← builtBy_append, ← hsplit]
    rw [happend, List.map_append, List.nodup_append] at hnodup htopics
    exact ⟨hnodup.2.2 _ (List.mem_map_of_mem hn) _ (List.mem_map_of_mem hn'),
      htopics.2.2 _ (List.mem_map_of_mem hn) _ (List.mem_map_of_mem hn')⟩
  · intro hsucceed
    have hnodes : rs.nodes = built :=
      (attempted_calls calls (new registry config)).nodes_of_ok hsucceed.attemptsOf
    refine ⟨hnodes, ?_⟩
    rw [hnodes, ← map_toNat_nth hroom, ← hids, List.map_map]
    rfl

/-- Nodes of a rule that fails behind its first link use up numbers that stay used, and types with
colons and digits make no topics alike. -/
theorem topics_tell_nodes_apart_failed :
    let registry := (Registry.empty.addFilter "a" fun _ => .ok .matched).addFilter "a:1" fun _ =>
      .ok .matched
    let rule (name : String) (links : List Link) : Rule :=
      ⟨name, ⟨1, 1⟩, .fragment (.filter "a" [] false) links⟩
    let failing : List Call :=
      [.addRule ⟨"m"⟩ (rule "x" [.filter "a:1" [] false, .call "missing"]) []]
    let working : List Call := [.addRule ⟨"m"⟩ (rule "y" [.filter "a:1" [] true]) []]
    let start := new registry .empty
    (after registry .empty (failing ++ working)).issued ≤ 2 ^ 32 ∧
      ((start.builtBy (failing ++ working)).map Node.topic) =
        [⟨"a:0"⟩, ⟨"a:1:1"⟩, ⟨"a:2"⟩, ⟨"a:1:3"⟩] ∧
      (∀ n ∈ start.builtBy failing,
        ∀ n' ∈ (after registry .empty failing).builtBy working, n.id ≠ n'.id) ∧
      start.AllSucceed working ∧
        (after registry .empty working).nodes.map (fun n => n.id.number.toNat) = [0, 1] := by
  intro registry rule failing working start
  have hroom : (after registry .empty (failing ++ working)).issued ≤ 2 ^ 32 := by
    simp only [registry, rule, failing, working]
    cbv
  have hroom' : (after registry .empty working).issued ≤ 2 ^ 32 := by
    simp only [registry, rule, working]
    cbv
  have hsucceed : start.AllSucceed working := by
    refine ⟨?_, trivial⟩
    simp only [Succeeds, start, registry, rule]
    cbv
  have hissued : (after registry .empty working).issued = 2 := by
    simp only [registry, rule, working]
    cbv
  obtain ⟨-, -, -, -, -, hapart, -⟩ := topics_tell_nodes_apart registry .empty _ hroom
  obtain ⟨-, -, -, -, -, -, hordered⟩ := topics_tell_nodes_apart registry .empty _ hroom'
  refine ⟨hroom, ?_, fun n hn n' hn' => (hapart _ _ rfl n hn n' hn').1, hsucceed, ?_⟩
  · simp only [start, registry, rule, failing, working]
    cbv
  · rw [(hordered hsucceed).2, hissued]
    rfl

end Ruleset
end RuleGraph
