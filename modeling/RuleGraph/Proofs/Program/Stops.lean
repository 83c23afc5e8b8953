import RuleGraph.Proofs.Graph.Building
import RuleGraph.Proofs.Program.WellFormed

/-!
# Stops of a rule that is built

A rule is built just when its nodes can be constructed and its calls are answered by rules without a
producer. Each of its stops is then entered at one topic and left at another: both are the topic of
a new node, with the number that comes next, or those where a called rule begins and ends.
-/
namespace RuleGraph

/-- The topics at which a section is entered and left. -/
def Section.ends (s : Section) : Topic × Topic := (s.first.topic, s.last.topic)

/-- The edges from where each stop is left to where the next one is entered. -/
def joints : List (Topic × Topic) → List Edge
  | a :: b :: rest => ⟨a.2, b.1⟩ :: joints (b :: rest)
  | _ => []

theorem mem_joints {ends : List (Topic × Topic)} {e : Edge} :
    e ∈ joints ends ↔ ∃ (i : Nat) (a b : Topic × Topic),
      ends[i]? = some a ∧ ends[i + 1]? = some b ∧ e = ⟨a.2, b.1⟩ := by
  fun_induction joints ends with
  | case1 a b rest ih =>
    rw [List.mem_cons, ih]
    constructor
    · rintro (rfl | ⟨i, a', b', ha, hb, rfl⟩)
      · exact ⟨0, a, b, rfl, rfl, rfl⟩
      · exact ⟨i + 1, a', b', ha, hb, rfl⟩
    · rintro ⟨i, a', b', ha, hb, rfl⟩
      cases i with
      | zero =>
        cases ha
        cases hb
        exact .inl rfl
      | succ i => exact .inr ⟨i, a', b', ha, hb, rfl⟩
  | case2 ends hshort =>
    simp only [List.not_mem_nil, false_iff]
    rintro ⟨i, a, b, ha, hb, -⟩
    match ends with
    | [] => simp at ha
    | [_] => simp at hb
    | a :: b :: rest => exact hshort a b rest rfl

theorem map_edge_wires (t topic : Topic) (sections : List Section) :
    (Section.wires topic sections).map Wire.edge =
      joints ((t, topic) :: sections.map Section.ends) := by
  induction sections generalizing t topic with
  | nil => rfl
  | cons s rest ih =>
    rw [Section.wires, List.map_cons, ih s.first.topic]
    rfl

/-- The part of a pair of ends that belongs to a side. -/
def Side.of {α : Type} : Side → α × α → α
  | .entry, a => a.1
  | .exit, a => a.2

/-- The node at which messages enter or leave. -/
def Side.node : Side → CompiledRule → Node
  | .entry, c => c.first
  | .exit, c => c.last

namespace Workshop

variable {w : Workshop} {k : Nat}

/-- Stops with the topics at which they are entered and left, when nodes get numbers from `k` on. -/
inductive Fits (w : Workshop) : Nat → List Stop → List (Topic × Topic) → Prop
  | nil {k : Nat} : Fits w k [] []
  | node {k : Nat} {type : String} {stops : List Stop} {ends : List (Topic × Topic)}
      (rest : Fits w (k + 1) stops ends) :
      Fits w k (.node type :: stops) ((.ofNode type (.nth k), .ofNode type (.nth k)) :: ends)
  | call {k : Nat} {name : String} {callee : CompiledRule} {stops : List Stop}
      {ends : List (Topic × Topic)} (visible : w.callee? name = some callee)
      (rest : Fits w k stops ends) :
      Fits w k (.call name :: stops) ((callee.first.topic, callee.last.topic) :: ends)

namespace Fits

variable {stops : List Stop} {ends : List (Topic × Topic)} {i : Nat}

theorem length_eq (h : Fits w k stops ends) : ends.length = stops.length := by
  induction h with
  | nil => rfl
  | node _ ih => simp [ih]
  | call _ _ ih => simp [ih]

/-- A node has the number behind those of the nodes in front of it. -/
theorem getElem?_node {type : String} (h : Fits w k stops ends)
    (hi : stops[i]? = some (.node type)) :
    ∃ t, ends[i]? = some (t, t) ∧
      t = .ofNode type (.nth (k + (stops.take i).countP Stop.isNode)) := by
  induction h generalizing i with
  | nil => simp at hi
  | node _ ih =>
    cases i with
    | zero =>
      cases hi
      exact ⟨_, rfl, rfl⟩
    | succ i =>
      obtain ⟨t, ht, hnumber⟩ := ih hi
      refine ⟨t, ht, ?_⟩
      rw [hnumber, List.take_succ_cons, List.countP_cons_of_pos rfl, Nat.add_assoc, Nat.add_comm 1]
  | call _ _ ih =>
    cases i with
    | zero => simp at hi
    | succ i =>
      obtain ⟨t, ht, hnumber⟩ := ih hi
      refine ⟨t, ht, ?_⟩
      rw [hnumber, List.take_succ_cons, List.countP_cons_of_neg Bool.false_ne_true]

theorem getElem?_call {name : String} (h : Fits w k stops ends)
    (hi : stops[i]? = some (.call name)) :
    ∃ callee, w.callee? name = some callee ∧
      ends[i]? = some (callee.first.topic, callee.last.topic) := by
  induction h generalizing i with
  | nil => simp at hi
  | node _ ih =>
    cases i with
    | zero => simp at hi
    | succ i => exact ih hi
  | @call _ _ callee _ _ hvisible _ ih =>
    cases i with
    | zero =>
      cases hi
      exact ⟨callee, hvisible, rfl⟩
    | succ i => exact ih hi

end Fits

theorem Made.fits {rule : String} {s s' : Supply} {links : List Link} {sections : List Section}
    (h : Made w rule s links sections s') (hnext : s.next = .nth k) :
    Fits w k (links.map Link.stop) (sections.map Section.ends) := by
  induction h generalizing k with
  | nil => exact .nil
  | @filter s _ type _ _ _ _ _ _ _ _ _ ih =>
    have hrest := ih (Supply.next_take hnext _ _)
    have htopic : Topic.ofNode type s.next = .ofNode type (.nth k) := by rw [hnext]
    simp only [List.map_cons, Link.stop, Section.ends, Section.first, Section.last,
      FilterNode.topic, htopic]
    exact .node hrest
  | @call _ _ name callee chain _ _ hvisible hflow _ ih =>
    have hends : (Section.call name chain.first chain.last).ends =
        (callee.first.topic, callee.last.topic) := by
      rw [CompiledRule.first, CompiledRule.last, hflow]
      rfl
    rw [List.map_cons, List.map_cons, hends]
    exact .call hvisible (ih hnext)

theorem Made.next {rule : String} {s s' : Supply} {links : List Link} {sections : List Section}
    (h : Made w rule s links sections s') (hnext : s.next = .nth k) :
    s'.next = .nth (k + (links.map Link.stop).countP Stop.isNode) := by
  induction h generalizing k with
  | nil => exact hnext
  | filter _ _ _ ih =>
    rw [ih (Supply.next_take hnext _ _), List.map_cons, Link.stop, List.countP_cons_of_pos rfl,
      Nat.add_assoc, Nat.add_comm 1]
  | call _ _ _ ih =>
    rw [ih hnext, List.map_cons, Link.stop, List.countP_cons_of_neg Bool.false_ne_true]

/-- The stops of a rule that is built, with their topics: its wires lead from each stop to the next,
and it begins and ends where its stops do. -/
theorem MadeRule.fits {rule : Rule} {s s' : Supply} {flow : Flow} {wires : List Wire}
    (h : MadeRule w rule s flow wires s') (hnext : s.next = .nth k) (file : Path) :
    s'.next = .nth (k + rule.nodeCount) ∧
      flow.producer?.isSome = rule.body.producer?.isSome ∧
      ∃ ends, Fits w k rule.body.stops ends ∧ wires.map Wire.edge = joints ends ∧
        ∀ side : Side, (ends[side.stop rule]?).map side.of =
          some (side.node ⟨rule.name, file, flow⟩).topic := by
  cases h with
  | @fragment first rest head sections _ body links =>
    have hstops : rule.body.stops = (first :: rest).map Link.stop := by rw [body]; rfl
    refine ⟨?_, by rw [body]; rfl, (head :: sections).map Section.ends, ?_, ?_, fun side => ?_⟩
    · rw [Rule.nodeCount, hstops]
      exact links.next hnext
    · rw [hstops]
      exact links.fits hnext
    · rw [map_edge_wires head.first.topic]
      rfl
    · have hlength := (links.fits hnext).length_eq
      rw [← hstops] at hlength
      cases side with
      | entry => rfl
      | exit =>
        rw [Side.stop, ← hlength, ← List.getLast?_eq_getElem?, List.getLast?_map,
          List.getLast?_eq_some_getLast (List.cons_ne_nil _ _)]
        rfl
  | @produced decl chain _ program sections _ body known accepted links =>
    have hstops : rule.body.stops = .node decl.name :: chain.map Link.stop := by rw [body]; rfl
    have hfits : Fits w k (.node decl.name :: chain.map Link.stop)
        ((.ofNode decl.name (.nth k), .ofNode decl.name (.nth k)) :: sections.map Section.ends) :=
      .node (links.fits (Supply.next_take hnext _ _))
    rw [← hstops] at hfits
    refine ⟨?_, by rw [body]; rfl, _, hfits, ?_, fun side => ?_⟩
    · rw [Rule.nodeCount, hstops, List.countP_cons_of_pos rfl,
        links.next (Supply.next_take hnext _ _), Nat.add_assoc, Nat.add_comm 1]
    · rw [hnext, map_edge_wires (.ofNode decl.name (.nth k))]
    · have hlength := hfits.length_eq
      cases side with
      | entry =>
        rw [← hnext]
        rfl
      | exit =>
        rw [Side.stop, ← hlength, ← List.getLast?_eq_getElem?, ← hnext]
        cases sections with
        | nil => rfl
        | cons s rest =>
          rw [List.map_cons, List.getLast?_cons_cons, ← List.map_cons, List.getLast?_map,
            List.getLast?_eq_some_getLast (List.cons_ne_nil _ _)]
          rfl

/-! ### Which rules can be built -/

/-- The calls of a rule that are answered by rules without a producer. -/
def Answers (w : Workshop) (links : List Link) : Prop :=
  ∀ name, .call name ∈ links → ∃ callee, w.callee? name = some callee ∧ callee.hasProducer = false

theorem exists_fragment_iff {callee : CompiledRule} :
    (∃ chain, callee.flow = .fragment chain) ↔ callee.hasProducer = false := by
  rw [CompiledRule.hasProducer, CompiledRule.producer?]
  cases callee.flow <;> simp [Flow.producer?]

theorem exists_made_iff {rule : String} {s : Supply} {links : List Link} :
    (∃ sections s', Made w rule s links sections s') ↔
      (∀ type written negated, .filter type written negated ∈ links →
        ∃ factory react, w.registry.filter? type = some factory ∧
          factory (w.config.nodeParams type written) = .ok react) ∧ w.Answers links := by
  constructor
  · rintro ⟨sections, s', h⟩
    induction h with
    | nil => simp [Answers]
    | filter known accepted _ ih =>
      obtain ⟨hfilters, hcalls⟩ := ih
      refine ⟨fun type written negated hmem => ?_, fun name hmem => ?_⟩
      · rcases List.mem_cons.mp hmem with heq | hmem
        · cases heq
          exact ⟨_, _, known, accepted⟩
        · exact hfilters type written negated hmem
      · exact hcalls name (by simpa using hmem)
    | call visible fragment _ ih =>
      obtain ⟨hfilters, hcalls⟩ := ih
      refine ⟨fun type written negated hmem => ?_, fun name hmem => ?_⟩
      · exact hfilters type written negated (by simpa using hmem)
      · rcases List.mem_cons.mp hmem with heq | hmem
        · cases heq
          exact ⟨_, visible, exists_fragment_iff.mp ⟨_, fragment⟩⟩
        · exact hcalls name hmem
  · rintro ⟨hfilters, hcalls⟩
    induction links generalizing s with
    | nil => exact ⟨[], s, .nil⟩
    | cons link links ih =>
      have hrest {s : Supply} := ih (s := s)
        (fun type written negated hmem => hfilters _ _ _ (List.mem_cons_of_mem _ hmem))
        (fun name hmem => hcalls _ (List.mem_cons_of_mem _ hmem))
      cases link with
      | filter type written negated =>
        obtain ⟨factory, react, known, accepted⟩ := hfilters type written negated List.mem_cons_self
        obtain ⟨sections, s', hmade⟩ := hrest
        exact ⟨_, s', .filter known accepted hmade⟩
      | call name =>
        obtain ⟨callee, visible, hproducer⟩ := hcalls name List.mem_cons_self
        obtain ⟨chain, fragment⟩ := exists_fragment_iff.mpr hproducer
        obtain ⟨sections, s', hmade⟩ := hrest
        exact ⟨_, s', .call visible fragment hmade⟩

/-- A rule is built just when its nodes can be constructed and its calls are answered. -/
theorem exists_madeRule_iff {rule : Rule} {s : Supply} :
    (∃ flow wires s', MadeRule w rule s flow wires s') ↔
      rule.body.Constructible w.registry w.config ∧ w.Answers rule.body.chain := by
  constructor
  · rintro ⟨flow, wires, s', h⟩
    cases h with
    | fragment body links =>
      obtain ⟨hfilters, hcalls⟩ := exists_made_iff.mp ⟨_, _, links⟩
      rw [body]
      exact ⟨⟨by simp [RuleBody.producer?], hfilters⟩, hcalls⟩
    | produced body known accepted links =>
      obtain ⟨hfilters, hcalls⟩ := exists_made_iff.mp ⟨_, _, links⟩
      rw [body]
      refine ⟨⟨fun decl hdecl => ?_, hfilters⟩, hcalls⟩
      cases hdecl
      exact ⟨_, _, known, accepted⟩
  · rintro ⟨⟨hproducer, hfilters⟩, hcalls⟩
    cases hbody : rule.body with
    | fragment first rest =>
      rw [hbody] at hfilters hcalls
      obtain ⟨sections, s', hmade⟩ := exists_made_iff.mpr ⟨hfilters, hcalls⟩
      cases sections with
      | nil => cases hmade
      | cons head sections => exact ⟨_, _, s', .fragment hbody hmade⟩
    | produced decl chain =>
      rw [hbody] at hproducer hfilters hcalls
      obtain ⟨factory, program, known, accepted⟩ := hproducer decl rfl
      obtain ⟨sections, s', hmade⟩ := exists_made_iff.mpr ⟨hfilters, hcalls⟩
      exact ⟨_, _, s', .produced hbody known accepted hmade⟩

end Workshop
end RuleGraph
