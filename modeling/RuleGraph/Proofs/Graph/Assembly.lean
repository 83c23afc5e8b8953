import RuleGraph.Proofs.Graph.Attempts
import RuleGraph.Proofs.Graph.Renaming
import RuleGraph.Proofs.Program.Admission
import RuleGraph.Proofs.Traffic.Queues

/-!
# What a ruleset is assembled from

A ruleset to which rules were added is assembled from one piece for each of them. A piece is made of
its rule and of pieces that were there before, and of nothing else of the ruleset. So two rulesets
that are assembled from the same rules, whatever the order, differ by a renaming of their nodes.
-/
namespace RuleGraph

/-- A rule of a file with what was built for it. -/
structure Piece where
  file : Path
  rule : Rule
  flow : Flow
  wires : List Wire

namespace Piece

def source (p : Piece) : Path × Rule := (p.file, p.rule)

def compiled (p : Piece) : CompiledRule := ⟨p.rule.name, p.file, p.flow⟩

def ids (p : Piece) : List NodeId := p.flow.nodes.map Node.id

def subscriptions (p : Piece) : List (Topic × FilterNode) := p.wires.map Wire.subscription

/-- The piece was made of its rule, and its calls lead to pieces among the given ones. -/
def MadeAmong (registry : Registry) (config : Config) (ps : List Piece) (p : Piece) : Prop :=
  ∃ w s s', w.registry = registry ∧ w.config = config ∧
    Workshop.MadeRule w p.rule s p.flow p.wires s' ∧
    ∀ name c, w.callee? name = some c → ∃ q ∈ ps, q.compiled = c ∧ q.rule.name = name

/-- A piece of the same rule that differs by a renaming of nodes. -/
structure Renamed (ρ : NodeId → NodeId) (p q : Piece) : Prop where
  source : q.source = p.source
  flow : q.flow = p.flow.rename ρ
  ties : ∃ ties : List Tie, p.subscriptions = ties.map Tie.subscription ∧
    q.subscriptions = ties.map fun t => (t.rename ρ).subscription

end Piece

/-- Pieces that can be put together from the last to the first, with rules of different names. -/
inductive Assembled (registry : Registry) (config : Config) : List Piece → Prop
  | nil : Assembled registry config []
  | cons {p : Piece} {ps : List Piece} (made : p.MadeAmong registry config ps)
      (new : ∀ q ∈ ps, q.rule.name ≠ p.rule.name) (rest : Assembled registry config ps) :
      Assembled registry config (p :: ps)

variable {registry : Registry} {config : Config} {ps qs rs : List Piece} {p q : Piece}
  {ρ : NodeId → NodeId}

theorem Piece.MadeAmong.mono (h : p.MadeAmong registry config ps) (hsub : ∀ q ∈ ps, q ∈ qs) :
    p.MadeAmong registry config qs := by
  obtain ⟨w, s, s', hregistry, hconfig, hmade, hcallee⟩ := h
  refine ⟨w, s, s', hregistry, hconfig, hmade, fun name c hc => ?_⟩
  obtain ⟨q, hq, hcompiled⟩ := hcallee name c hc
  exact ⟨q, hsub q hq, hcompiled⟩

theorem Piece.MadeAmong.length_ids (h : p.MadeAmong registry config ps) :
    p.ids.length = p.rule.nodeCount := by
  obtain ⟨w, s, s', -, -, hmade, -⟩ := h
  rw [ids, List.length_map, hmade.length_nodes]

/-- Pieces of one rule are renamed if the pieces that they call are. -/
theorem Piece.MadeAmong.renamed (hp : p.MadeAmong registry config ps)
    (hq : q.MadeAmong registry config qs) (hsource : q.source = p.source)
    (hids : q.ids = p.ids.map ρ)
    (hcalls : ∀ p' ∈ ps, ∀ q' ∈ qs, q'.rule.name = p'.rule.name →
      q'.flow = p'.flow.rename ρ) : p.Renamed ρ q := by
  obtain ⟨w, s, t, hregistry, hconfig, hmade, hcallee⟩ := hp
  obtain ⟨w', s', t', hregistry', hconfig', hmade', hcallee'⟩ := hq
  have hcallees : ∀ name c c', w.callee? name = some c → w'.callee? name = some c' →
      c'.flow = c.flow.rename ρ := by
    intro name c c' hc hc'
    obtain ⟨p', hp', rfl, hname⟩ := hcallee name c hc
    obtain ⟨q', hq', rfl, hname'⟩ := hcallee' name c' hc'
    exact hcalls p' hp' q' hq' (hname'.trans hname.symm)
  have hnumbers : q.flow.nodes.map Node.id = p.flow.nodes.map fun n => ρ n.id := by
    simpa [ids, Function.comp_def] using hids
  rw [(Prod.mk.inj hsource).2] at hmade'
  obtain ⟨hflow, hties⟩ := hmade.renamed (hregistry'.trans hregistry.symm)
    (hconfig'.trans hconfig.symm) hcallees hmade' hnumbers
  exact ⟨hsource, hflow, hties⟩

namespace Assembled

theorem made (h : Assembled registry config ps) : ∀ p ∈ ps, p.MadeAmong registry config ps := by
  induction h with
  | nil => simp
  | cons made _ _ ih =>
    intro q hq
    rcases List.mem_cons.mp hq with rfl | hq
    · exact made.mono fun _ => List.mem_cons_of_mem _
    · exact (ih q hq).mono fun _ => List.mem_cons_of_mem _

theorem eq_of_name (h : Assembled registry config ps) (hp : p ∈ ps) (hq : q ∈ ps)
    (hname : p.rule.name = q.rule.name) : p = q := by
  induction h with
  | nil => simp at hp
  | cons _ new _ ih =>
    rcases List.mem_cons.mp hp with hfirst | hrest
    · rcases List.mem_cons.mp hq with hfirst' | hrest'
      · rw [hfirst, hfirst']
      · exact absurd (hfirst ▸ hname.symm) (new q hrest')
    · rcases List.mem_cons.mp hq with hfirst' | hrest'
      · exact absurd (hfirst' ▸ hname) (new p hrest)
      · exact ih hrest hrest'

theorem length_ids (h : Assembled registry config ps) :
    (ps.flatMap Piece.ids).length = (ps.map fun p => p.rule.nodeCount).sum := by
  induction h with
  | nil => rfl
  | cons made _ _ ih =>
    rw [List.flatMap_cons, List.length_append, made.length_ids, ih, List.map_cons, List.sum_cons]

/-- Pieces of the same rules, one by one, with numbers taken to each other, are renamed: by
induction along one assembly, in which calls lead to pieces further down. -/
theorem renamed (hp : Assembled registry config ps) (hq : Assembled registry config qs)
    (hsub : ∀ r ∈ rs, r ∈ qs)
    (hsame : List.Forall₂ (fun p r => r.source = p.source ∧ r.ids = p.ids.map ρ) ps rs) :
    List.Forall₂ (Piece.Renamed ρ) ps rs := by
  induction hp generalizing rs with
  | nil =>
    cases hsame
    exact .nil
  | @cons p ps made new _ ih =>
    cases hsame with
    | @cons _ r _ rs hfirst hrest =>
      obtain ⟨hsource, hids⟩ := hfirst
      have hbelow := ih (fun r hr => hsub r (List.mem_cons_of_mem _ hr)) hrest
      refine .cons ?_ hbelow
      apply made.renamed (hq.made r (hsub r List.mem_cons_self)) hsource hids
      intro p' hp' q' hq' hname
      -- of the name there is one piece only in the second assembly, the one beside the first piece
      obtain ⟨r', hr', hrenamed⟩ := exists_of_forall₂_left hbelow hp'
      have hname' : r'.rule.name = q'.rule.name := by
        rw [(Prod.mk.inj hrenamed.source).2, hname]
      rw [← hq.eq_of_name (hsub r' (List.mem_cons_of_mem _ hr')) hq' hname']
      exact hrenamed.flow

end Assembled

/-- The numbers of pieces of the same rules that are taken to each other as a whole are so piece by
piece. -/
theorem forall₂_ids_of_map_eq (hsame : List.Forall₂ (fun p r => r.source = p.source) ps rs)
    (hps : ∀ p ∈ ps, p.ids.length = p.rule.nodeCount)
    (hrs : ∀ r ∈ rs, r.ids.length = r.rule.nodeCount)
    (hmap : (ps.flatMap Piece.ids).map ρ = rs.flatMap Piece.ids) :
    List.Forall₂ (fun p r => r.source = p.source ∧ r.ids = p.ids.map ρ) ps rs := by
  induction hsame with
  | nil => exact .nil
  | @cons p r ps rs hsource _ ih =>
    obtain ⟨hp, hps⟩ := List.forall_mem_cons.mp hps
    obtain ⟨hr, hrs⟩ := List.forall_mem_cons.mp hrs
    have hlength : (p.ids.map ρ).length = r.ids.length := by
      rw [List.length_map, hp, hr, (Prod.mk.inj hsource).2]
    rw [List.flatMap_cons, List.flatMap_cons, List.map_append] at hmap
    obtain ⟨hids, hrest⟩ := List.append_inj hmap hlength
    exact .cons ⟨hsource, hids.symm⟩ (ih hps hrs hrest)

/-- Two assemblies of the same rules, each of nodes with different numbers, are renamings of each
other. -/
theorem Assembled.exists_renaming (hp : Assembled registry config ps)
    (hq : Assembled registry config qs)
    (hsources : (ps.map Piece.source).Perm (qs.map Piece.source))
    (hps : (ps.flatMap Piece.ids).Nodup) (hqs : (qs.flatMap Piece.ids).Nodup) :
    ∃ (ρ : NodeId ≃ NodeId) (rs : List Piece), rs.Perm qs ∧
      List.Forall₂ (Piece.Renamed ρ) ps rs := by
  -- put the second assembly into the order of the first one
  have hself : List.Forall₂ (fun d r => Piece.source r = d) (qs.map Piece.source) qs := by
    rw [List.forall₂_map_left_iff]
    exact List.forall₂_same.mpr fun _ _ => rfl
  obtain ⟨rs, haligned, hperm⟩ := List.perm_comp_forall₂ hsources hself
  rw [List.forall₂_map_left_iff] at haligned
  have hids : (rs.flatMap Piece.ids).Perm (qs.flatMap Piece.ids) := hperm.flatMap_right _
  have hlength : (ps.flatMap Piece.ids).length = (rs.flatMap Piece.ids).length := by
    have hcounts := (hsources.map fun d => d.2.nodeCount).sum_eq
    rw [List.map_map, List.map_map] at hcounts
    rw [hids.length_eq, hp.length_ids, hq.length_ids]
    exact hcounts
  obtain ⟨ρ, hρ⟩ := NodeId.exists_renaming hps (hids.nodup_iff.mpr hqs) hlength
  have hblocks := forall₂_ids_of_map_eq haligned (fun p hmem => (hp.made p hmem).length_ids)
    (fun r hmem => (hq.made r (hperm.subset hmem)).length_ids) hρ
  exact ⟨ρ, rs, hperm, hp.renamed hq (fun r hmem => hperm.subset hmem) hblocks⟩

theorem map_compiled_of_renamed (h : List.Forall₂ (Piece.Renamed ρ) ps rs) :
    rs.map Piece.compiled = (ps.map Piece.compiled).map (CompiledRule.rename ρ) := by
  induction h with
  | nil => rfl
  | @cons p r _ _ hfirst _ ih =>
    obtain ⟨hfile, hrule⟩ := Prod.mk.inj hfirst.source
    have hcompiled : r.compiled = p.compiled.rename ρ := by
      rw [Piece.compiled, Piece.compiled, hfile, hrule, hfirst.flow]
      rfl
    rw [List.map_cons, List.map_cons, List.map_cons, ih, hcompiled]

theorem exists_ties_of_renamed (h : List.Forall₂ (Piece.Renamed ρ) ps rs) :
    ∃ ties : List Tie, ps.flatMap Piece.subscriptions = ties.map Tie.subscription ∧
      rs.flatMap Piece.subscriptions = ties.map fun t => (t.rename ρ).subscription := by
  induction h with
  | nil => exact ⟨[], rfl, rfl⟩
  | cons hfirst _ ih =>
    obtain ⟨ties, hties, hties'⟩ := hfirst.ties
    obtain ⟨more, hmore, hmore'⟩ := ih
    refine ⟨ties ++ more, ?_, ?_⟩
    · rw [List.flatMap_cons, hties, hmore, List.map_append]
    · rw [List.flatMap_cons, hties', hmore', List.map_append]

namespace Ruleset

/-- A ruleset with nothing but the rules and subscriptions of some pieces. -/
structure Assembles (rs : Ruleset) (registry : Registry) (config : Config) (ps : List Piece) :
    Prop where
  assembled : Assembled registry config ps
  registry : rs.registry = registry
  config : rs.config = config
  fresh : rs.bus.Fresh
  rules : rs.rules.Perm (ps.map Piece.compiled)
  subscriptions : rs.bus.subscriptions.Perm (ps.flatMap Piece.subscriptions)

/-- A ruleset that differs from another by a renaming of nodes: in its rules, and in the ties that
its subscriptions make. -/
structure RenamedBy (ρ : NodeId → NodeId) (rs rs' : Ruleset) : Prop where
  rules : rs'.rules.Perm (rs.rules.map (CompiledRule.rename ρ))
  subscriptions : ∃ ties : List Tie, rs.bus.subscriptions.Perm (ties.map Tie.subscription) ∧
    rs'.bus.subscriptions.Perm (ties.map fun t => (t.rename ρ).subscription)

def Attempt.source (a : Attempt) : Path × Rule := (a.file, a.rule)

variable {rs rs' : Ruleset} {file : Path} {rule : Rule} {deps : List Path}

theorem assembles_new (registry : Registry) (config : Config) :
    (new registry config).Assembles registry config [] :=
  ⟨.nil, rfl, rfl, fresh_new registry config, .nil, .nil⟩

theorem Assembles.congr (h : rs.Assembles registry config ps) (hsame : SameGraph rs rs') :
    rs'.Assembles registry config ps := by
  refine ⟨h.assembled, hsame.registry.trans h.registry, hsame.config.trans h.config, ?_, ?_, ?_⟩
  · rw [hsame.bus]
    exact h.fresh
  · rw [hsame.rules]
    exact h.rules
  · rw [hsame.bus]
    exact h.subscriptions

/-- A rule that is added is made of pieces that were there. -/
theorem Assembles.addRule (h : rs.Assembles registry config ps)
    (hok : (rs.addRule file rule deps).1 = .ok ()) :
    ∃ p : Piece, p.source = (file, rule) ∧
      (rs.addRule file rule deps).2.Assembles registry config (p :: ps) := by
  rcases addRule_cases rs file rule deps with
    ⟨e, made, -, heq⟩ | ⟨t, s, rs', result, hlays, hending, heq⟩
  · simp [heq] at hok
  cases hending with
  | torn => simp [heq] at hok
  | whole left =>
    let p : Piece := ⟨file, rule, t.rule.flow, t.wires⟩
    have hadded : t.added = [p.compiled] := by
      rw [Strand.added, left, hlays.rule_eq]
      rfl
    have hmade := hlays.made
    rw [left, List.append_nil] at hmade
    have hmem {c : CompiledRule} : c ∈ rs.rules ↔ ∃ q ∈ ps, q.compiled = c := by
      rw [h.rules.mem_iff, List.mem_map]
    have hpiece : p.MadeAmong registry config ps := by
      refine ⟨rs.workshop file deps, rs.supply, s, h.registry, h.config, hmade, fun name c hc => ?_⟩
      obtain ⟨hc, hname, -⟩ := callee?_eq_some hc
      obtain ⟨q, hq, hcompiled⟩ := hmem.mp hc
      exact ⟨q, hq, hcompiled, by rw [← hname, ← hcompiled]; rfl⟩
    have hnames : ∀ q ∈ ps, q.rule.name ≠ p.rule.name := by
      intro q hq hname
      have hnew := hlays.absent
      rw [rule?, List.find?_eq_none] at hnew
      exact hnew q.compiled (hmem.mpr ⟨q, hq, rfl⟩) (decide_eq_true hname)
    have hfresh := fresh_addRule h.fresh file rule deps
    have hsubscriptions := perm_subscriptions_connect (show (rs.use s).bus.Fresh from h.fresh)
      hlays.connected
    obtain ⟨bus, downstream, threads, hframe⟩ := connect_frame (rs.use s) t.wires
    rw [hlays.connected] at hframe
    cases hframe
    rw [heq] at hfresh ⊢
    refine ⟨p, rfl, .cons hpiece hnames h.assembled, h.registry, h.config, hfresh, ?_, ?_⟩
    · rw [hadded]
      exact (List.perm_append_singleton _ _).trans (h.rules.cons _)
    · exact hsubscriptions.trans (List.perm_append_comm.trans (h.subscriptions.append_left _))

/-- Attempts that all succeed make one piece each. -/
theorem Attempted.assembles {as : List Attempt} (h : Attempted rs as rs') (hok : ∀ a ∈ as, a.Ok)
    (hrs : rs.Assembles registry config ps) :
    ∃ more : List Piece, (more.map Piece.source).Perm (as.map Attempt.source) ∧
      rs'.Assembles registry config (more ++ ps) := by
  induction h generalizing ps with
  | done same => exact ⟨[], .nil, hrs.congr same⟩
  | @next _ _ a as same _ ih =>
    obtain ⟨hfirst, hrest⟩ := List.forall_mem_cons.mp hok
    obtain ⟨p, hsource, hadded⟩ := (hrs.congr same).addRule hfirst
    obtain ⟨more, hsources, hassembles⟩ := ih hrest hadded
    refine ⟨more ++ [p], ?_, by simpa using hassembles⟩
    rw [List.map_append, List.map_cons, List.map_nil, hsource, List.map_cons]
    exact (List.perm_append_singleton _ _).trans (hsources.cons _)

theorem Assembles.perm_ids (h : rs.Assembles registry config ps) :
    (rs.nodes.map Node.id).Perm (ps.flatMap Piece.ids) := by
  have hnodes := h.rules.flatMap_right fun c => c.nodes.map Node.id
  rw [nodes, List.map_flatMap]
  rwa [List.flatMap_map] at hnodes

/-- Rulesets that are assembled from the same rules differ by a renaming of nodes. -/
theorem Assembles.exists_renaming (h : rs.Assembles registry config ps)
    (h' : rs'.Assembles registry config qs)
    (hsources : (ps.map Piece.source).Perm (qs.map Piece.source))
    (hnodup : (rs.nodes.map Node.id).Nodup) (hnodup' : (rs'.nodes.map Node.id).Nodup) :
    ∃ ρ : NodeId ≃ NodeId, RenamedBy ρ rs rs' := by
  obtain ⟨ρ, rs₁, hperm, hrenamed⟩ := h.assembled.exists_renaming h'.assembled hsources
    (h.perm_ids.nodup_iff.mp hnodup) (h'.perm_ids.nodup_iff.mp hnodup')
  have hrules := map_compiled_of_renamed hrenamed
  obtain ⟨ties, hties, hties'⟩ := exists_ties_of_renamed hrenamed
  refine ⟨ρ, ?_, ties, ?_, ?_⟩
  · have hperm' := h'.rules.trans (hperm.map Piece.compiled).symm
    rw [hrules] at hperm'
    exact hperm'.trans (h.rules.map _).symm
  · exact hties ▸ h.subscriptions
  · exact hties' ▸ h'.subscriptions.trans (hperm.flatMap_right _).symm

end Ruleset
end RuleGraph
