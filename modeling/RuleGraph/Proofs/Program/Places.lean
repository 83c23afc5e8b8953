import RuleGraph.Proofs.Graph.Dispatchers
import RuleGraph.Proofs.Program.WellFormed

/-!
# Places

Where rules have different names, a stop is entered and left at one place. What is said of places
depends on which rules there are and not on their order, and a rule that comes behind others only
adds the ways along its own stops. If places stand for topics, one for each, ways along stops are
walks along edges.
-/
namespace RuleGraph

variable {rules more : List Rule} {side : Side} {r : Rule} {i : Nat} {p q : Place} {type : String}

/-- A place at which a rule declares a node of a type. -/
def DeclaredAs (rules : List Rule) (type : String) (p : Place) : Prop :=
  ∃ r ∈ rules, r.name = p.rule ∧ r.body.stops[p.stop]? = some (.node type)

/-- A place at which a rule declares a node. -/
def Declared (rules : List Rule) (p : Place) : Prop := ∃ type, DeclaredAs rules type p

/-- A thread can be started for each node that feeds another one: it can be named after the node's
type, and there are enough threads for all of these nodes. -/
structure Dispatchable (given : Threads) (rules : List Rule) : Prop where
  nameable : ∀ type p q, DeclaredAs rules type p → Feeds rules p q → '\x00' ∉ type.toList
  threads : given.Suffice fun p => ∃ q, Feeds rules p q

/-- Every stop can be entered and left somewhere. -/
def Resolved (rules : List Rule) : Prop :=
  ∀ r ∈ rules, ∀ side i, i < r.body.stops.length → ∃ p, EndsAt rules side r i p

theorem RuleBody.stops_ne_nil (body : RuleBody) : body.stops ≠ [] := by
  cases body <;> simp [stops]

theorem Side.stop_lt (side : Side) (r : Rule) : side.stop r < r.body.stops.length := by
  have hpos := List.length_pos_iff.mpr r.body.stops_ne_nil
  cases side <;> simp only [stop] <;> omega

theorem DeclaredAs.mono (hsub : ∀ r ∈ rules, r ∈ more) (h : DeclaredAs rules type p) :
    DeclaredAs more type p := by
  obtain ⟨r, hr, hp⟩ := h
  exact ⟨r, hsub r hr, hp⟩

theorem Declared.mono (hsub : ∀ r ∈ rules, r ∈ more) (h : Declared rules p) : Declared more p := by
  obtain ⟨type, hp⟩ := h
  exact ⟨type, hp.mono hsub⟩

namespace EndsAt

theorem mem (h : EndsAt rules side r i p) : r ∈ rules := by
  cases h <;> assumption

theorem lt_length (h : EndsAt rules side r i p) : i < r.body.stops.length := by
  cases h with
  | node _ hstop => exact (List.getElem?_eq_some_iff.mp hstop).1
  | call _ hstop _ => exact (List.getElem?_eq_some_iff.mp hstop).1

theorem mono (hsub : ∀ r ∈ rules, r ∈ more) (h : EndsAt rules side r i p) :
    EndsAt more side r i p := by
  induction h with
  | node hr hstop => exact .node (hsub _ hr) hstop
  | call hr hstop _ ih => exact .call (hsub _ hr) hstop ih

theorem declared (h : EndsAt rules side r i p) : Declared rules p := by
  induction h with
  | node hr hstop => exact ⟨_, _, hr, rfl, hstop⟩
  | call _ _ _ ih => exact ih

theorem unique (hnames : (rules.map Rule.name).Nodup) (h : EndsAt rules side r i p)
    (h' : EndsAt rules side r i q) : p = q := by
  induction h with
  | node _ hstop =>
    cases h' with
    | node => rfl
    | call _ hstop' => simp [hstop] at hstop'
  | @call r callee i p _ hstop hrest ih =>
    cases h' with
    | node _ hstop' => simp [hstop] at hstop'
    | @call _ callee' _ _ _ hstop' hrest' =>
      have hname : callee.name = callee'.name := by simpa [hstop] using hstop'
      obtain rfl := List.inj_on_of_nodup_map hnames hrest.mem hrest'.mem hname
      exact ih hrest'

end EndsAt

theorem Feeds.mono (hsub : ∀ r ∈ rules, r ∈ more) (h : Feeds rules p q) : Feeds more p q := by
  obtain ⟨hleave, henter⟩ := h
  exact .next (hleave.mono hsub) (henter.mono hsub)

theorem Feeds.declared (h : Feeds rules p q) : Declared rules p ∧ Declared rules q := by
  obtain ⟨hleave, henter⟩ := h
  exact ⟨hleave.declared, henter.declared⟩

theorem Dispatchable.mono {given : Threads} (hsub : ∀ r ∈ rules, r ∈ more)
    (h : Dispatchable given more) : Dispatchable given rules :=
  ⟨fun type p q hp hfeeds => h.nameable type p q (hp.mono hsub) (hfeeds.mono hsub),
    h.threads.mono fun _ ⟨q, hfeeds⟩ => ⟨q, hfeeds.mono hsub⟩⟩

theorem CycleFree.mono (hsub : ∀ r ∈ rules, r ∈ more) (h : CycleFree more) : CycleFree rules :=
  fun p hcycle => h p (Relation.TransGen.mono (fun _ _ => .mono hsub) _ _ hcycle)

/-- Without calls all ways lead on in a rule. -/
theorem cycleFree_of_no_calls (h : ∀ r ∈ rules, ∀ name, .call name ∉ r.body.stops) :
    CycleFree rules := by
  have hplace {side : Side} {r : Rule} {i : Nat} {p : Place} (hends : EndsAt rules side r i p) :
      p = ⟨r.name, i⟩ := by
    cases hends with
    | node => rfl
    | call hr hstop _ => exact absurd (List.mem_of_getElem? hstop) (h r hr _)
  have hlt {p q : Place} (hway : Relation.TransGen (Feeds rules) p q) : p.stop < q.stop := by
    have hstep {p q : Place} (hfeeds : Feeds rules p q) : p.stop < q.stop := by
      obtain ⟨hleave, henter⟩ := hfeeds
      rw [hplace hleave, hplace henter]
      exact Nat.lt_succ_self _
    induction hway with
    | single hfeeds => exact hstep hfeeds
    | tail _ hfeeds ih => exact Nat.lt_trans ih (hstep hfeeds)
  exact fun p hcycle => Nat.lt_irrefl _ (hlt hcycle)

/-- A rule behind others adds the ways from one of its stops to the next. -/
theorem feeds_concat_iff (hnames : ((rules ++ [r]).map Rule.name).Nodup)
    (hresolved : Resolved rules) :
    Feeds (rules ++ [r]) p q ↔ Feeds rules p q ∨
      ∃ i, EndsAt (rules ++ [r]) .exit r i p ∧ EndsAt (rules ++ [r]) .entry r (i + 1) q := by
  have hsub : ∀ r' ∈ rules, r' ∈ rules ++ [r] := fun _ => List.mem_append_left _
  constructor
  · rintro ⟨hleave, henter⟩
    rename_i r' i
    rcases List.mem_append.mp hleave.mem with hold | hnew
    · obtain ⟨p', hp'⟩ := hresolved r' hold .exit i hleave.lt_length
      obtain ⟨q', hq'⟩ := hresolved r' hold .entry (i + 1) henter.lt_length
      rw [hleave.unique hnames (hp'.mono hsub), henter.unique hnames (hq'.mono hsub)]
      exact .inl (.next hp' hq')
    · obtain rfl := List.mem_singleton.mp hnew
      exact .inr ⟨i, hleave, henter⟩
  · rintro (h | ⟨i, hleave, henter⟩)
    · exact h.mono hsub
    · exact .next hleave henter

/-! ### Places and topics -/

variable {edges : List Edge} {topic : Place → Topic}

/-- Places that stand for different topics have a cycle just when the edges between the topics
have one. -/
theorem acyclic_iff_cycleFree
    (hedges : ∀ e, e ∈ edges ↔ ∃ p q, Feeds rules p q ∧ e = ⟨topic p, topic q⟩)
    (hinj : ∀ p q, Declared rules p → Declared rules q → topic p = topic q → p = q) :
    Acyclic edges ↔ CycleFree rules := by
  have hdown {p q : Place} (h : Relation.ReflTransGen (Feeds rules) p q) :
      Leads edges (topic p) (topic q) := by
    induction h with
    | refl => exact .refl
    | tail _ hfeeds ih => exact ih.trans (.single ((hedges _).mpr ⟨_, _, hfeeds, rfl⟩))
  have hup {t u : Topic} (h : Leads edges t u) : ∀ p, Declared rules p → topic p = t →
      ∃ q, Declared rules q ∧ topic q = u ∧ Relation.ReflTransGen (Feeds rules) p q := by
    induction h with
    | refl => exact fun p hp ht => ⟨p, hp, ht, .refl⟩
    | step he _ ih =>
      intro p hp ht
      obtain ⟨p', q', hfeeds, hedge⟩ := (hedges _).mp he
      obtain ⟨hsource, htarget⟩ := Edge.mk.inj hedge
      obtain rfl := hinj p p' hp hfeeds.declared.1 (ht.trans hsource)
      obtain ⟨q, hq, hu, hway⟩ := ih q' hfeeds.declared.2 htarget.symm
      exact ⟨q, hq, hu, .head hfeeds hway⟩
  constructor
  · intro hacyclic p hcycle
    obtain ⟨q, hfeeds, hback⟩ := Relation.TransGen.head'_iff.mp hcycle
    exact hacyclic _ ((hedges _).mpr ⟨p, q, hfeeds, rfl⟩) (hdown hback)
  · intro hfree e he hback
    obtain ⟨p, q, hfeeds, rfl⟩ := (hedges e).mp he
    obtain ⟨p', hp', htopic, hway⟩ := hup hback q hfeeds.declared.2 rfl
    obtain rfl := hinj p' p hp' hfeeds.declared.1 htopic
    exact hfree p' (.head' hfeeds hway)

end RuleGraph
