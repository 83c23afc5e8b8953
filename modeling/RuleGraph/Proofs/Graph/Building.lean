import RuleGraph.Proofs.Graph.Numbering

/-!
# What building a rule gives

`Made` and `MadeRule` say what comes out when links and rules are built, one case for each kind of
link and rule; building succeeds just as they say. Whatever the outcome, the supply has only given
numbers to nodes. The nodes that a rule makes for itself get the numbers that come next, in order.
-/
namespace RuleGraph

def Link.call? : Link → Option String
  | .filter .. => none
  | .call rule => some rule

/-- The links that wires lead into: all behind the producer, or all behind the first link. -/
def RuleBody.joined : RuleBody → List Link
  | .produced _ chain => chain
  | .fragment _ rest => rest

namespace Section

/-- The filters that sections hold of their own, in order. -/
def owned (sections : List Section) : List FilterNode := sections.filterMap own?

@[simp] theorem owned_nil : owned [] = [] := rfl

@[simp] theorem owned_filter (n : FilterNode) (rest : List Section) :
    owned (.filter n :: rest) = n :: owned rest := rfl

@[simp] theorem owned_call (rule : String) (first last : FilterNode) (rest : List Section) :
    owned (.call rule first last :: rest) = owned rest := rfl

/-- The chain that sections make, if there are any. -/
def chain? : List Section → Option Chain
  | [] => none
  | head :: rest => some (head.chain rest)

theorem map_call?_wires (topic : Topic) (sections : List Section) :
    (wires topic sections).map Wire.call = sections.map call? := by
  induction sections generalizing topic with
  | nil => rfl
  | cons s rest ih => simp [wires, ih]

end Section

namespace Workshop

variable {w : Workshop} {rule : String}

/-- Links built from one supply on, with the supply that is left. -/
inductive Made (w : Workshop) (rule : String) :
    Supply → List Link → List Section → Supply → Prop
  | nil {s : Supply} : Made w rule s [] [] s
  | filter {s s' : Supply} {type : String} {written : List Param} {negated : Bool}
      {factory : FilterFactory} {react : Filter} {links : List Link} {sections : List Section}
      (known : w.registry.filter? type = some factory)
      (accepted : factory (w.config.nodeParams type written) = .ok react)
      (rest : Made w rule (s.take type (w.config.nodeParams type written)) links sections s') :
      Made w rule s (.filter type written negated :: links)
        (.filter ⟨s.next, type, rule, w.config.nodeParams type written, negated, react⟩ ::
          sections) s'
  | call {s s' : Supply} {name : String} {callee : CompiledRule} {chain : Chain}
      {links : List Link} {sections : List Section}
      (visible : w.callee? name = some callee) (fragment : callee.flow = .fragment chain)
      (rest : Made w rule s links sections s') :
      Made w rule s (.call name :: links) (.call name chain.first chain.last :: sections) s'

theorem callSection_eq_ok_iff {name : String} {section_ : Section} :
    w.callSection name = .ok section_ ↔
      ∃ callee chain, w.callee? name = some callee ∧ callee.flow = .fragment chain ∧
        section_ = .call name chain.first chain.last := by
  unfold callSection
  cases w.callee? name with
  | none => simp
  | some callee => cases hflow : callee.flow <;> simp [hflow, eq_comm]

theorem buildFilter_eq_ok_iff {type : String} {written : List Param} {negated : Bool}
    {s s' : Supply} {node : FilterNode} :
    w.buildFilter rule type written negated s = (.ok node, s') ↔
      ∃ factory react, w.registry.filter? type = some factory ∧
        factory (w.config.nodeParams type written) = .ok react ∧
        node = ⟨s.next, type, rule, w.config.nodeParams type written, negated, react⟩ ∧
        s' = s.take type (w.config.nodeParams type written) := by
  unfold buildFilter
  cases hknown : w.registry.filter? type with
  | none => simp
  | some factory =>
    cases haccepted : factory (w.config.nodeParams type written) <;>
      simp [haccepted, eq_comm]

theorem buildLink_eq_ok_iff {link : Link} {s s' : Supply} {section_ : Section} :
    w.buildLink rule link s = (.ok section_, s') ↔ Made w rule s [link] [section_] s' := by
  cases link with
  | filter type written negated =>
    have hbuild : w.buildLink rule (.filter type written negated) s = (.ok section_, s') ↔
        ∃ node, w.buildFilter rule type written negated s = (.ok node, s') ∧
          section_ = .filter node := by
      rw [buildLink]
      split
      · rename_i heq
        simp [heq]
      · rename_i node s₁ heq
        simp only [heq, Prod.mk.injEq, Except.ok.injEq]
        constructor
        · rintro ⟨rfl, rfl⟩
          exact ⟨node, ⟨rfl, rfl⟩, rfl⟩
        · rintro ⟨_, ⟨rfl, rfl⟩, rfl⟩
          exact ⟨rfl, rfl⟩
    rw [hbuild]
    constructor
    · rintro ⟨node, hnode, rfl⟩
      obtain ⟨factory, react, hknown, haccepted, rfl, rfl⟩ := buildFilter_eq_ok_iff.mp hnode
      exact .filter hknown haccepted .nil
    · intro h
      cases h with
      | filter hknown haccepted hrest =>
        cases hrest
        exact ⟨_, buildFilter_eq_ok_iff.mpr ⟨_, _, hknown, haccepted, rfl, rfl⟩, rfl⟩
  | call name =>
    rw [buildLink, Prod.mk.injEq, callSection_eq_ok_iff]
    constructor
    · rintro ⟨⟨callee, chain, hvisible, hflow, rfl⟩, rfl⟩
      exact .call hvisible hflow .nil
    · intro h
      cases h with
      | call hvisible hflow hrest =>
        cases hrest
        exact ⟨⟨_, _, hvisible, hflow, rfl⟩, rfl⟩

theorem made_cons_iff {link : Link} {links : List Link} {section_ : Section}
    {sections : List Section} {s s'' : Supply} :
    Made w rule s (link :: links) (section_ :: sections) s'' ↔
      ∃ s', Made w rule s [link] [section_] s' ∧ Made w rule s' links sections s'' := by
  constructor
  · intro h
    cases h with
    | filter hknown haccepted hrest => exact ⟨_, .filter hknown haccepted .nil, hrest⟩
    | call hvisible hflow hrest => exact ⟨_, .call hvisible hflow .nil, hrest⟩
  · rintro ⟨s', hlink, hrest⟩
    cases hlink with
    | filter hknown haccepted hnil =>
      cases hnil
      exact .filter hknown haccepted hrest
    | call hvisible hflow hnil =>
      cases hnil
      exact .call hvisible hflow hrest

theorem buildLinks_eq_ok_iff {links : List Link} {s s' : Supply} {sections : List Section} :
    w.buildLinks rule links s = (.ok sections, s') ↔ Made w rule s links sections s' := by
  induction links generalizing s sections with
  | nil =>
    simp only [buildLinks, Prod.mk.injEq, Except.ok.injEq]
    constructor
    · rintro ⟨rfl, rfl⟩
      exact .nil
    · intro h
      cases h
      exact ⟨rfl, rfl⟩
  | cons link links ih =>
    rw [buildLinks]
    constructor
    · intro h
      split at h
      · simp at h
      · rename_i section_ s₁ hlink
        split at h
        · simp at h
        · rename_i rest s₂ hrest
          cases h
          exact made_cons_iff.mpr ⟨s₁, buildLink_eq_ok_iff.mp hlink, ih.mp hrest⟩
    · intro h
      obtain ⟨section_, rest, rfl⟩ : ∃ section_ rest, sections = section_ :: rest := by
        cases h <;> exact ⟨_, _, rfl⟩
      obtain ⟨s₁, hlink, hrest⟩ := made_cons_iff.mp h
      simp [buildLink_eq_ok_iff.mpr hlink, ih.mpr hrest]

/-- A rule built from a supply on, with the supply that is left. -/
inductive MadeRule (w : Workshop) (rule : Rule) (s : Supply) :
    Flow → List Wire → Supply → Prop
  | fragment {first : Link} {rest : List Link} {head : Section} {sections : List Section}
      {s' : Supply} (body : rule.body = .fragment first rest)
      (links : Made w rule.name s (first :: rest) (head :: sections) s') :
      MadeRule w rule s (.fragment (head.chain sections))
        (Section.wires head.last.topic sections) s'
  | produced {decl : ProducerDecl} {chain : List Link} {factory : ProducerFactory}
      {program : Producer} {sections : List Section} {s' : Supply}
      (body : rule.body = .produced decl chain)
      (known : w.registry.producer? decl.name = some factory)
      (accepted : factory (w.config.nodeParams decl.name decl.params) = .ok program)
      (links : Made w rule.name (s.take decl.name (w.config.nodeParams decl.name decl.params))
        chain sections s') :
      MadeRule w rule s
        (.produced ⟨s.next, decl.name, rule.name, w.config.nodeParams decl.name decl.params,
          program⟩ (Section.chain? sections))
        (Section.wires (.ofNode decl.name s.next) sections) s'

theorem buildProducer_eq_ok_iff {decl : ProducerDecl} {s s' : Supply} {node : ProducerNode} :
    w.buildProducer rule decl s = (.ok node, s') ↔
      ∃ factory program, w.registry.producer? decl.name = some factory ∧
        factory (w.config.nodeParams decl.name decl.params) = .ok program ∧
        node = ⟨s.next, decl.name, rule, w.config.nodeParams decl.name decl.params, program⟩ ∧
        s' = s.take decl.name (w.config.nodeParams decl.name decl.params) := by
  unfold buildProducer
  cases hknown : w.registry.producer? decl.name with
  | none => simp
  | some factory =>
    cases haccepted : factory (w.config.nodeParams decl.name decl.params) <;>
      simp [haccepted, eq_comm]

theorem buildRule_eq_ok_iff {rule : Rule} {s s' : Supply} {flow : Flow} {wires : List Wire} :
    w.buildRule rule s = (.ok (flow, wires), s') ↔ MadeRule w rule s flow wires s' := by
  cases hbody : rule.body with
  | fragment first rest =>
    simp only [buildRule, hbody]
    constructor
    · intro h
      split at h
      · simp at h
      · rename_i head s₁ hhead
        split at h
        · simp at h
        · rename_i sections s₂ hrest
          cases h
          exact .fragment hbody (made_cons_iff.mpr
            ⟨s₁, buildLink_eq_ok_iff.mp hhead, buildLinks_eq_ok_iff.mp hrest⟩)
    · intro h
      cases h with
      | fragment hbody' hlinks =>
        obtain ⟨rfl, rfl⟩ := RuleBody.fragment.inj (hbody.symm.trans hbody')
        obtain ⟨s₁, hhead, hrest⟩ := made_cons_iff.mp hlinks
        simp [buildLink_eq_ok_iff.mpr hhead, buildLinks_eq_ok_iff.mpr hrest]
      | produced hbody' => simp [hbody] at hbody'
  | produced decl chain =>
    simp only [buildRule, hbody]
    constructor
    · intro h
      split at h
      · simp at h
      · rename_i producer s₁ hproducer
        obtain ⟨factory, program, hknown, haccepted, rfl, rfl⟩ :=
          buildProducer_eq_ok_iff.mp hproducer
        split at h
        · simp at h
        · rename_i sections s₂ hlinks
          have hmade := MadeRule.produced hbody hknown haccepted (buildLinks_eq_ok_iff.mp hlinks)
          cases sections <;> cases h <;> exact hmade
    · intro h
      cases h with
      | fragment hbody' => simp [hbody] at hbody'
      | @produced decl' chain' factory program sections s' hbody' hknown haccepted hlinks =>
        obtain ⟨rfl, rfl⟩ := RuleBody.produced.inj (hbody.symm.trans hbody')
        rw [buildProducer_eq_ok_iff.mpr ⟨factory, program, hknown, haccepted, rfl, rfl⟩]
        simp only [buildLinks_eq_ok_iff.mpr hlinks]
        cases sections <;> rfl

/-! ### Supplies and numbers -/

theorem exists_takeAll_buildFilter (rule type : String) (written : List Param) (negated : Bool)
    (s : Supply) : ∃ made, (w.buildFilter rule type written negated s).2 = s.takeAll made := by
  unfold buildFilter
  split
  · exact ⟨[], rfl⟩
  · dsimp only
    split
    · exact ⟨[], rfl⟩
    · exact ⟨[(type, w.config.nodeParams type written)], rfl⟩

theorem exists_takeAll_buildProducer (rule : String) (decl : ProducerDecl) (s : Supply) :
    ∃ made, (w.buildProducer rule decl s).2 = s.takeAll made := by
  unfold buildProducer
  split
  · exact ⟨[], rfl⟩
  · dsimp only
    split
    · exact ⟨[], rfl⟩
    · exact ⟨[(decl.name, w.config.nodeParams decl.name decl.params)], rfl⟩

theorem exists_takeAll_buildLink (rule : String) (link : Link) (s : Supply) :
    ∃ made, (w.buildLink rule link s).2 = s.takeAll made := by
  cases link with
  | filter type written negated =>
    obtain ⟨made, hmade⟩ := exists_takeAll_buildFilter (w := w) rule type written negated s
    refine ⟨made, ?_⟩
    rw [← hmade, buildLink]
    split <;> rename_i heq <;> rw [heq]
  | call name => exact ⟨[], rfl⟩

theorem exists_takeAll_buildLinks (rule : String) (links : List Link) (s : Supply) :
    ∃ made, (w.buildLinks rule links s).2 = s.takeAll made := by
  induction links generalizing s with
  | nil => exact ⟨[], rfl⟩
  | cons link links ih =>
    obtain ⟨made, hmade⟩ := exists_takeAll_buildLink (w := w) rule link s
    obtain ⟨more, hmore⟩ := ih (s.takeAll made)
    rw [buildLinks]
    split
    · rename_i heq
      exact ⟨made, by rw [← hmade, heq]⟩
    · rename_i heq
      rw [heq] at hmade
      simp only at hmade
      refine ⟨made ++ more, ?_⟩
      rw [Supply.takeAll_append, ← hmore, ← hmade]
      split <;> rename_i heq' <;> rw [heq']

/-- Building a rule, with whatever outcome, only gives numbers to nodes. -/
theorem exists_takeAll_buildRule (rule : Rule) (s : Supply) :
    ∃ made, (w.buildRule rule s).2 = s.takeAll made := by
  unfold buildRule
  split
  · rename_i first rest hbody
    obtain ⟨made, hmade⟩ := exists_takeAll_buildLink (w := w) rule.name first s
    split
    · rename_i heq
      exact ⟨made, by rw [← hmade, heq]⟩
    · rename_i head s₁ heq
      obtain ⟨more, hmore⟩ := exists_takeAll_buildLinks (w := w) rule.name rest s₁
      rw [heq] at hmade
      refine ⟨made ++ more, ?_⟩
      rw [Supply.takeAll_append, ← hmade, ← hmore]
      split <;> rename_i heq' <;> rw [heq']
  · rename_i decl chain hbody
    obtain ⟨made, hmade⟩ := exists_takeAll_buildProducer (w := w) rule.name decl s
    split
    · rename_i heq
      exact ⟨made, by rw [← hmade, heq]⟩
    · rename_i producer s₁ heq
      obtain ⟨more, hmore⟩ := exists_takeAll_buildLinks (w := w) rule.name chain s₁
      rw [heq] at hmade
      refine ⟨made ++ more, ?_⟩
      rw [Supply.takeAll_append, ← hmade, ← hmore]
      split <;> rename_i heq' <;> rw [heq']

namespace Made

variable {s s' : Supply} {links : List Link} {sections : List Section}

theorem map_call? (h : Made w rule s links sections s') :
    sections.map Section.call? = links.map Link.call? := by
  induction h with
  | nil => rfl
  | filter _ _ _ ih => simp [Section.call?, Link.call?, ih]
  | call _ _ _ ih => simp [Section.call?, Link.call?, ih]

theorem supply (h : Made w rule s links sections s') :
    s' = s.takeAll ((Section.owned sections).map fun n => (n.type, n.params)) := by
  induction h with
  | nil => rfl
  | filter _ _ _ ih => simpa using ih
  | call _ _ _ ih => simpa using ih

theorem ids (h : Made w rule s links sections s') {k : Nat} (hnext : s.next = .nth k) :
    (Section.owned sections).map FilterNode.id =
      (List.range' k (Section.owned sections).length).map NodeId.nth := by
  induction h generalizing k with
  | nil => rfl
  | filter _ _ _ ih =>
    simp only [Section.owned_filter, List.map_cons, List.length_cons, List.range'_succ]
    rw [ih (Supply.next_take hnext _ _), hnext]
  | call _ _ _ ih => simpa using ih hnext

end Made

namespace MadeRule

variable {rule : Rule} {s s' : Supply} {flow : Flow} {wires : List Wire}

theorem nodes_fragment (head : Section) (sections : List Section) :
    (Flow.fragment (head.chain sections)).nodes = (Section.owned (head :: sections)).map .filter :=
  rfl

theorem nodes_produced (producer : ProducerNode) (sections : List Section) :
    (Flow.produced producer (Section.chain? sections)).nodes =
      .producer producer :: (Section.owned sections).map .filter := by
  cases sections <;> rfl

theorem map_call (h : MadeRule w rule s flow wires s') :
    wires.map Wire.call = rule.body.joined.map Link.call? := by
  cases h with
  | fragment body links =>
    have hcalls := links.map_call?
    rw [Section.map_call?_wires, body]
    exact (List.cons.inj hcalls).2
  | produced body _ _ links => rw [Section.map_call?_wires, body, links.map_call?, RuleBody.joined]

/-- The supply that a rule leaves has given a number to each node of the rule. -/
theorem exists_takeAll (h : MadeRule w rule s flow wires s') :
    ∃ made, s' = s.takeAll made ∧ made.length = flow.nodes.length := by
  cases h with
  | fragment _ links =>
    exact ⟨_, links.supply, by simp [nodes_fragment]⟩
  | @produced decl _ _ _ _ _ _ _ _ links =>
    refine ⟨(decl.name, w.config.nodeParams decl.name decl.params) :: _, links.supply, ?_⟩
    simp [nodes_produced]

/-- The nodes of a rule have the numbers that come next, in order. -/
theorem ids (h : MadeRule w rule s flow wires s') {k : Nat} (hnext : s.next = .nth k) :
    flow.nodes.map Node.id = (List.range' k flow.nodes.length).map NodeId.nth := by
  cases h with
  | fragment _ links =>
    simpa [nodes_fragment, Function.comp_def, Node.id] using links.ids hnext
  | produced _ _ _ links =>
    have hids := links.ids (Supply.next_take hnext _ _)
    simp only [nodes_produced, List.map_cons, List.map_map, List.length_cons, List.length_map,
      List.range'_succ, Function.comp_def, Node.id, hnext]
    exact congrArg _ hids

end MadeRule
end Workshop
end RuleGraph
