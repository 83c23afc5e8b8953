import RuleGraph.Graph.Reach

/-!
# Reachability and cycles

The search along edges is exact: it finds a topic just when a walk leads there. So the first wire
that closes a cycle is found just when the wires, put to an acyclic graph, make a cycle, and it is
the first one behind which there is a cycle. What leads where, and whether there is a cycle, depends
on which edges there are and not on their order.
-/
namespace RuleGraph

variable {edges more : List Edge} {s t u : Topic} {e : Edge}

namespace Leads

theorem single (h : ⟨s, t⟩ ∈ edges) : Leads edges s t := .step h .refl

theorem trans (h : Leads edges s t) (h' : Leads edges t u) : Leads edges s u := by
  induction h with
  | refl => exact h'
  | step he _ ih => exact .step he (ih h')

theorem mono (hsub : ∀ e ∈ edges, e ∈ more) (h : Leads edges s t) : Leads more s t := by
  induction h with
  | refl => exact .refl
  | step he _ ih => exact .step (hsub _ he) ih

/-- A walk that goes somewhere else begins with an edge. -/
theorem exists_edge (h : Leads edges s t) (hne : s ≠ t) : ∃ e ∈ edges, e.source = s := by
  cases h with
  | refl => exact absurd rfl hne
  | step he _ => exact ⟨_, he, rfl⟩

/-- A walk over one edge more avoids this edge, or goes to its source and on from its target. -/
theorem cons_iff :
    Leads (e :: edges) s t ↔
      Leads edges s t ∨ (Leads edges s e.source ∧ Leads edges e.target t) := by
  constructor
  · intro h
    induction h with
    | refl => exact .inl .refl
    | @step s m t he _ ih =>
      rcases List.mem_cons.mp he with rfl | he
      · rcases ih with ih | ⟨_, ih⟩ <;> exact .inr ⟨.refl, ih⟩
      · rcases ih with ih | ⟨ih, ih'⟩
        · exact .inl (.step he ih)
        · exact .inr ⟨.step he ih, ih'⟩
  · rintro (h | ⟨h, h'⟩)
    · exact h.mono fun _ => List.mem_cons_of_mem _
    · have hsub : ∀ f ∈ edges, f ∈ e :: edges := fun _ => List.mem_cons_of_mem _
      exact (h.mono hsub).trans (.step List.mem_cons_self (h'.mono hsub))

end Leads

theorem mem_edgesElsewhere : e ∈ edgesElsewhere edges t ↔ e ∈ edges ∧ e.source ≠ t := by
  simp [edgesElsewhere]

theorem mem_successors : u ∈ successors edges t ↔ ⟨t, u⟩ ∈ edges := by
  simp only [successors, List.mem_map, List.mem_filter, decide_eq_true_eq]
  constructor
  · rintro ⟨⟨_, _⟩, ⟨he, rfl⟩, rfl⟩
    exact he
  · exact fun he => ⟨_, ⟨he, rfl⟩, rfl⟩

/-- A walk either does without the edges of a topic, or does so behind its last stay there. -/
theorem Leads.without (h : Leads edges s u) (t : Topic) :
    Leads (edgesElsewhere edges t) s u ∨
      ∃ v ∈ successors edges t, Leads (edgesElsewhere edges t) v u := by
  induction h with
  | refl => exact .inl .refl
  | @step s m u he _ ih =>
    rcases ih with ih | ih
    · by_cases hs : s = t
      · subst hs
        exact .inr ⟨m, mem_successors.mpr he, ih⟩
      · exact .inl (.step (mem_edgesElsewhere.mpr ⟨he, hs⟩) ih)
    · exact .inr ih

/-- The search finds a topic just when a walk leads there from one of the topics to be visited. -/
theorem reaches_iff {goal : Topic} {pending : List Topic} :
    reaches goal edges pending = true ↔ ∃ t ∈ pending, Leads edges t goal := by
  fun_induction reaches goal edges pending with
  | case1 edges => simp
  | case2 edges rest => simpa using .inl .refl
  | case3 edges topic rest hne ih =>
    have hsub : ∀ e ∈ edgesElsewhere edges topic, e ∈ edges :=
      fun e he => (mem_edgesElsewhere.mp he).1
    rw [ih]
    constructor
    · rintro ⟨t, ht, hwalk⟩
      rcases List.mem_append.mp ht with ht | ht
      · exact ⟨topic, by simp, .step (mem_successors.mp ht) (hwalk.mono hsub)⟩
      · exact ⟨t, List.mem_cons_of_mem _ ht, hwalk.mono hsub⟩
    · rintro ⟨t, ht, hwalk⟩
      rcases hwalk.without topic with hwalk | ⟨v, hv, hwalk⟩
      · rcases List.mem_cons.mp ht with rfl | ht
        · -- the walk cannot leave the topic, for none of its edges is left
          obtain ⟨e, he, hsource⟩ := hwalk.exists_edge hne
          exact absurd hsource (mem_edgesElsewhere.mp he).2
        · exact ⟨t, List.mem_append_right _ ht, hwalk⟩
      · exact ⟨v, List.mem_append_left _ hv, hwalk⟩

theorem closesCycle_iff : closesCycle edges e = true ↔ Leads edges e.target e.source := by
  simp [closesCycle, reaches_iff]

/-! ### Acyclic graphs -/

theorem acyclic_nil : Acyclic [] := by simp [Acyclic]

theorem Acyclic.mono (hsub : ∀ e ∈ edges, e ∈ more) (h : Acyclic more) : Acyclic edges :=
  fun e he hwalk => h e (hsub e he) (hwalk.mono hsub)

theorem acyclic_congr (h : ∀ e, e ∈ edges ↔ e ∈ more) : Acyclic edges ↔ Acyclic more :=
  ⟨.mono fun e => (h e).mpr, .mono fun e => (h e).mp⟩

/-- One edge more leaves a graph acyclic just when its target does not lead to its source. -/
theorem acyclic_cons_iff :
    Acyclic (e :: edges) ↔ Acyclic edges ∧ ¬ Leads edges e.target e.source := by
  have hsub : ∀ f ∈ edges, f ∈ e :: edges := fun _ => List.mem_cons_of_mem _
  constructor
  · intro h
    exact ⟨h.mono hsub, fun hwalk => h e List.mem_cons_self (hwalk.mono hsub)⟩
  · rintro ⟨hacyclic, hopen⟩ f hf hwalk
    rcases List.mem_cons.mp hf with rfl | hf
    · rcases Leads.cons_iff.mp hwalk with hwalk | ⟨hwalk, _⟩ <;> exact hopen hwalk
    · rcases Leads.cons_iff.mp hwalk with hwalk | ⟨hto, hfrom⟩
      · exact hacyclic f hf hwalk
      · -- the cycle through `f` and the new edge closes one through the new edge alone
        exact hopen (hfrom.trans (.step hf hto))

theorem acyclic_append_cons_iff :
    Acyclic (edges ++ e :: more) ↔ Acyclic (e :: edges ++ more) :=
  acyclic_congr fun f => by simp only [List.mem_append, List.mem_cons]; grind

theorem acyclic_concat_iff :
    Acyclic (edges ++ [e]) ↔ Acyclic edges ∧ ¬ Leads edges e.target e.source := by
  rw [acyclic_append_cons_iff, List.append_nil, acyclic_cons_iff]

theorem countP_lt_countP {α : Type} {p q : α → Bool} {as : List α} {a : α}
    (hle : ∀ b, p b = true → q b = true) (ha : a ∈ as) (hq : q a = true) (hp : p a = false) :
    as.countP p < as.countP q := by
  obtain ⟨before, after, rfl⟩ := List.append_of_mem ha
  have hbefore := List.countP_mono_left (l := before) fun b _ => hle b
  have hafter := List.countP_mono_left (l := after) fun b _ => hle b
  simp only [List.countP_append, List.countP_cons, hq, hp, Bool.false_eq_true, if_true, if_false]
  omega

/-- How many edges begin where a topic leads to. -/
def rank (edges : List Edge) (t : Topic) : Nat := edges.countP fun e => reaches e.source edges [t]

theorem rank_le_length (edges : List Edge) (t : Topic) : rank edges t ≤ edges.length :=
  List.countP_le_length

/-- In an acyclic graph every edge leads down: what its target leads to, its source does, and the
edge itself is left behind. -/
theorem Acyclic.rank_lt (h : Acyclic edges) (he : ⟨s, t⟩ ∈ edges) :
    rank edges t < rank edges s := by
  have hle : ∀ f : Edge,
      reaches f.source edges [t] = true → reaches f.source edges [s] = true := by
    intro f hf
    have hwalk : Leads edges t f.source := by simpa [reaches_iff] using hf
    simpa [reaches_iff] using Leads.step he hwalk
  have hself : reaches s edges [s] = true := reaches_iff.mpr ⟨s, by simp, .refl⟩
  have hback : reaches s edges [t] = false := by
    rw [Bool.eq_false_iff, ne_eq, reaches_iff]
    simpa using h _ he
  exact countP_lt_countP hle he hself hback

/-- Walks through an acyclic graph come to an end. -/
theorem Acyclic.wellFounded (h : Acyclic edges) : WellFounded fun t s => ⟨s, t⟩ ∈ edges :=
  Subrelation.wf (fun he => h.rank_lt he) (measure (rank edges)).wf

theorem Acyclic.wellFounded_back (h : Acyclic edges) : WellFounded fun s t => ⟨s, t⟩ ∈ edges := by
  refine Subrelation.wf (fun {s t} he => ?_) (measure fun t => edges.length - rank edges t).wf
  have hlt := h.rank_lt he
  have hle := rank_le_length edges s
  change edges.length - rank edges s < edges.length - rank edges t
  omega

/-! ### The first wire that closes a cycle -/

/-- No wire closes a cycle just when all of them together leave the graph acyclic. -/
theorem firstCycle?_eq_none_iff {wires : List Wire} (h : Acyclic edges) :
    firstCycle? edges wires = none ↔ Acyclic (edges ++ wires.map Wire.edge) := by
  induction wires generalizing edges with
  | nil => simpa [firstCycle?] using h
  | cons w rest ih =>
    rw [firstCycle?, List.map_cons, acyclic_append_cons_iff]
    split
    · rename_i hcloses
      have hwalk := closesCycle_iff.mp hcloses
      simp only [reduceCtorEq, false_iff]
      intro hacyclic
      have hsub : ∀ f ∈ w.edge :: edges, f ∈ w.edge :: edges ++ rest.map Wire.edge :=
        fun _ => List.mem_append_left _
      exact (acyclic_cons_iff.mp (hacyclic.mono hsub)).2 hwalk
    · rename_i hcloses
      exact ih (acyclic_cons_iff.mpr ⟨h, fun hwalk => hcloses (closesCycle_iff.mpr hwalk)⟩)

/-- The wire that is found is the first one behind which there is a cycle. -/
theorem firstCycle?_eq_some {wires : List Wire} {w : Wire} (h : Acyclic edges)
    (hfound : firstCycle? edges wires = some w) :
    ∃ before after, wires = before ++ w :: after ∧
      Acyclic (edges ++ before.map Wire.edge) ∧
      Leads (edges ++ before.map Wire.edge) w.target.topic w.topic := by
  induction wires generalizing edges with
  | nil => simp [firstCycle?] at hfound
  | cons v rest ih =>
    rw [firstCycle?] at hfound
    split at hfound
    · rename_i hcloses
      cases hfound
      have hwalk : Leads edges w.target.topic w.topic := closesCycle_iff.mp hcloses
      exact ⟨[], rest, rfl, by simpa using h, by simpa using hwalk⟩
    · rename_i hcloses
      have hv : Acyclic (v.edge :: edges) :=
        acyclic_cons_iff.mpr ⟨h, fun hwalk => hcloses (closesCycle_iff.mpr hwalk)⟩
      obtain ⟨before, after, rfl, hacyclic, hwalk⟩ := ih hv hfound
      refine ⟨v :: before, after, rfl, acyclic_append_cons_iff.mpr hacyclic, ?_⟩
      exact hwalk.mono fun f => by simp only [List.map_cons, List.mem_append, List.mem_cons]; grind

end RuleGraph
