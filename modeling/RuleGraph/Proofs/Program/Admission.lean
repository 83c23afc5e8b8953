import RuleGraph.Proofs.Program.Chart

/-!
# Which rules are added

A ruleset holds rules of a program when it has a compiled rule for each of them and its graph has a
chart. One more rule is added to it just when the rule is admissible: this hangs on the rules it
holds, on the files of these and on the threads that there were at first, but on nothing else of the
ruleset.
-/
namespace RuleGraph

/-- How many nodes rules declare. -/
def countNodes (rules : List Rule) : Nat := (rules.map Rule.nodeCount).sum

/-- What lets a rule of a file be added behind others, of whose files it may call some. -/
structure Admissible (registry : Registry) (config : Config) (given : Threads)
    (done : List (Path × Rule)) (file : Path) (deps : List Path) (rule : Rule) : Prop where
  named : rule.name ≠ ""
  new : rule.name ∉ (done.map Prod.snd).map Rule.name
  constructible : rule.body.Constructible registry config
  calls : ∀ name, .call name ∈ rule.body.chain → ∃ d ∈ done, d.2.name = name ∧
    d.2.body.producer? = none ∧ (d.1.same file = true ∨ Ruleset.hasPath deps d.1 = true)
  cycleFree : CycleFree (done.map Prod.snd ++ [rule])
  dispatchable : Dispatchable given (done.map Prod.snd ++ [rule])

/-- A compiled rule stands for a rule of a file. -/
structure CompiledRule.StandsFor (rules : List Rule) (topic : Place → Topic) (c : CompiledRule)
    (d : Path × Rule) : Prop where
  name : c.name = d.2.name
  file : c.file = d.1
  hasProducer : c.hasProducer = d.2.body.producer?.isSome
  ends : EndsWith rules topic d.2 c

theorem exists_of_forall₂_left {α β : Type} {R : α → β → Prop} {as : List α} {bs : List β}
    (h : List.Forall₂ R as bs) {a : α} (ha : a ∈ as) : ∃ b ∈ bs, R a b := by
  induction h with
  | nil => simp at ha
  | cons hab _ ih =>
    rcases List.mem_cons.mp ha with rfl | ha
    · exact ⟨_, List.mem_cons_self, hab⟩
    · obtain ⟨b, hb, hR⟩ := ih ha
      exact ⟨b, List.mem_cons_of_mem _ hb, hR⟩

theorem exists_of_forall₂_right {α β : Type} {R : α → β → Prop} {as : List α} {bs : List β}
    (h : List.Forall₂ R as bs) {b : β} (hb : b ∈ bs) : ∃ a ∈ as, R a b :=
  exists_of_forall₂_left h.flip hb

namespace Ruleset

/-- A ruleset whose rules and graph are those of the rules of a program, in the order in which they
were added. -/
structure Holds (rs : Ruleset) (registry : Registry) (config : Config) (given : Threads)
    (done : List (Path × Rule)) : Prop where
  registry : rs.registry = registry
  config : rs.config = config
  dispatched : rs.Dispatched given
  next : rs.next = .nth (countNodes (done.map Prod.snd))
  names : ((done.map Prod.snd).map Rule.name).Nodup
  cycleFree : CycleFree (done.map Prod.snd)
  chart : ∃ topic, Chart (done.map Prod.snd) rs.downstream (countNodes (done.map Prod.snd)) topic ∧
    List.Forall₂ (CompiledRule.StandsFor (done.map Prod.snd) topic) rs.rules done

variable {rs rs' : Ruleset} {registry : Registry} {config : Config} {given : Threads}
  {done : List (Path × Rule)} {file : Path} {deps : List Path} {rule : Rule}

theorem holds_new (registry : Registry) (config : Config) (given : Threads) :
    (newWith registry config given).Holds registry config given [] := by
  refine ⟨rfl, rfl, dispatched_new registry config given, rfl, List.nodup_nil, fun p hcycle => ?_,
    fun _ => default, ?_, .nil⟩
  · obtain ⟨q, hfeeds, -⟩ := Relation.TransGen.head'_iff.mp hcycle
    obtain ⟨-, r, hr, -⟩ := hfeeds.declared.1
    simp at hr
  · refine ⟨by simp [Resolved], fun e => ⟨by simp [newWith, new], ?_⟩, ?_, ?_⟩
    · rintro ⟨p, q, hfeeds, -⟩
      obtain ⟨-, r, hr, -⟩ := hfeeds.declared.1
      simp at hr
    · rintro type p ⟨r, hr, -⟩
      simp at hr
    · rintro p q ⟨-, r, hr, -⟩
      simp at hr

theorem Holds.congr (h : rs.Holds registry config given done) (hsame : SameGraph rs rs')
    (hthreads : rs'.threads = rs.threads) : rs'.Holds registry config given done := by
  refine ⟨hsame.registry.trans h.registry, hsame.config.trans h.config,
    h.dispatched.congr hsame.bus hsame.downstream hthreads, hsame.next.trans h.next, h.names,
    h.cycleFree, ?_⟩
  rw [hsame.downstream, hsame.rules]
  exact h.chart

/-- Threads could be started for the rules that are held. -/
theorem Holds.dispatchable (h : rs.Holds registry config given done) :
    Dispatchable given (done.map Prod.snd) := by
  obtain ⟨topic, hchart, -⟩ := h.chart
  refine hchart.dispatchable_iff.mp ⟨fun e he => ?_, h.dispatched.suffice⟩
  exact h.dispatched.named _ ((h.dispatched.sources _).mpr ⟨e, he, rfl⟩)

theorem Holds.eq_of_name (h : rs.Holds registry config given done) {d d' : Path × Rule}
    (hd : d ∈ done) (hd' : d' ∈ done) (hname : d.2.name = d'.2.name) : d = d' := by
  have hnames := h.names
  rw [List.map_map] at hnames
  exact List.inj_on_of_nodup_map hnames hd hd' hname

theorem Holds.rule?_eq_none_iff (h : rs.Holds registry config given done) {name : String} :
    rs.rule? name = none ↔ name ∉ (done.map Prod.snd).map Rule.name := by
  obtain ⟨topic, -, hrules⟩ := h.chart
  simp only [rule?, List.find?_eq_none, List.mem_map, decide_eq_true_eq]
  constructor
  · rintro hnone ⟨_, ⟨d, hd, rfl⟩, rfl⟩
    obtain ⟨c, hc, hstands⟩ := exists_of_forall₂_right hrules hd
    exact hnone c hc hstands.name
  · intro hnew c hc hname
    obtain ⟨d, hd, hstands⟩ := exists_of_forall₂_left hrules hc
    exact hnew ⟨d.2, ⟨d, hd, rfl⟩, hstands.name.symm.trans hname⟩

/-- What a call finds is a rule with its name, of a file that is visible. -/
theorem exists_of_callee? {topic : Place → Topic}
    (hrules : List.Forall₂ (CompiledRule.StandsFor (done.map Prod.snd) topic) rs.rules done)
    {name : String} {callee : CompiledRule} (hcallee : rs.callee? file deps name = some callee) :
    ∃ d ∈ done, d.2.name = name ∧ (d.1.same file = true ∨ hasPath deps d.1 = true) ∧
      callee.StandsFor (done.map Prod.snd) topic d := by
  obtain ⟨hmem, hname, hvisible⟩ := callee?_eq_some hcallee
  obtain ⟨d, hd, hstands⟩ := exists_of_forall₂_left hrules hmem
  exact ⟨d, hd, hstands.name.symm.trans hname, hstands.file ▸ hvisible, hstands⟩

theorem Holds.exists_callee? (h : rs.Holds registry config given done) {topic : Place → Topic}
    (hrules : List.Forall₂ (CompiledRule.StandsFor (done.map Prod.snd) topic) rs.rules done)
    {d : Path × Rule} (hd : d ∈ done) (hvisible : d.1.same file = true ∨ hasPath deps d.1 = true) :
    ∃ callee, rs.callee? file deps d.2.name = some callee ∧
      callee.StandsFor (done.map Prod.snd) topic d := by
  have hsome : rs.rule? d.2.name ≠ none := by
    rw [ne_eq, h.rule?_eq_none_iff, not_not]
    exact List.mem_map_of_mem (List.mem_map_of_mem hd)
  obtain ⟨callee, hcallee⟩ := Option.ne_none_iff_exists'.mp hsome
  have hmem := List.mem_of_find?_eq_some hcallee
  have hname : callee.name = d.2.name := by simpa using List.find?_some hcallee
  obtain ⟨d', hd', hstands⟩ := exists_of_forall₂_left hrules hmem
  obtain rfl := h.eq_of_name hd' hd (hstands.name.symm.trans hname)
  refine ⟨callee, ?_, hstands⟩
  rw [callee?, Option.filter_eq_some_iff, hstands.file]
  exact ⟨hcallee, by simpa using hvisible⟩

theorem Holds.answers_iff (h : rs.Holds registry config given done) {links : List Link} :
    (rs.workshop file deps).Answers links ↔ ∀ name, .call name ∈ links → ∃ d ∈ done,
      d.2.name = name ∧ d.2.body.producer? = none ∧
      (d.1.same file = true ∨ hasPath deps d.1 = true) := by
  obtain ⟨topic, -, hrules⟩ := h.chart
  constructor
  · intro hanswers name hname
    obtain ⟨callee, hcallee, hproducer⟩ := hanswers name hname
    obtain ⟨d, hd, hname, hvisible, hstands⟩ := exists_of_callee? hrules hcallee
    refine ⟨d, hd, hname, ?_, hvisible⟩
    rwa [hstands.hasProducer, Option.isSome_eq_false_iff, Option.isNone_iff_eq_none] at hproducer
  · intro hcalls name hname
    obtain ⟨d, hd, rfl, hproducer, hvisible⟩ := hcalls name hname
    obtain ⟨callee, hcallee, hstands⟩ := h.exists_callee? hrules hd hvisible
    exact ⟨callee, hcallee, by rw [hstands.hasProducer, hproducer]; rfl⟩

/-- The chart of a ruleset with the wires of one more rule that is built. -/
theorem Holds.exists_chart (h : rs.Holds registry config given done)
    (hnew : rule.name ∉ (done.map Prod.snd).map Rule.name)
    (hroom : countNodes (done.map Prod.snd) + rule.nodeCount ≤ NodeId.room) {flow : Flow}
    {wires : List Wire} {s : Supply}
    (hmade : (rs.workshop file deps).MadeRule rule rs.supply flow wires s) :
    (((done.map Prod.snd ++ [rule])).map Rule.name).Nodup ∧ ∃ topic,
      Chart (done.map Prod.snd ++ [rule]) (rs.downstream ++ wires.map Wire.edge)
        (countNodes (done.map Prod.snd ++ [rule])) topic ∧
      List.Forall₂ (CompiledRule.StandsFor (done.map Prod.snd ++ [rule]) topic)
        (rs.rules ++ [⟨rule.name, file, flow⟩]) (done ++ [(file, rule)]) := by
  obtain ⟨topic, hchart, hrules⟩ := h.chart
  have hnames : ((done.map Prod.snd ++ [rule]).map Rule.name).Nodup := by
    rw [List.map_append, List.nodup_append]
    refine ⟨h.names, by simp, fun a ha b hb heq => ?_⟩
    obtain rfl : b = rule.name := by simpa using hb
    exact hnew (heq ▸ ha)
  have hcallee : ∀ name callee, (rs.workshop file deps).callee? name = some callee →
      ∃ r ∈ done.map Prod.snd, r.name = name ∧ EndsWith (done.map Prod.snd) topic r callee := by
    intro name callee hcallee
    obtain ⟨d, hd, hname, -, hstands⟩ := exists_of_callee? hrules hcallee
    exact ⟨d.2, List.mem_map_of_mem hd, hname, hstands.ends⟩
  obtain ⟨-, hproducer, ends, hfits, hwires, hends⟩ := hmade.fits h.next file
  have hcount : countNodes (done.map Prod.snd ++ [rule]) =
      countNodes (done.map Prod.snd) + rule.nodeCount := by simp [countNodes]
  refine ⟨hnames, extendTopics topic rule ends, ?_, ?_⟩
  · rw [hwires, hcount]
    exact Chart.extend hchart hnames hfits hroom hcallee
  · refine List.rel_append (hrules.imp fun c d hstands => ?_) (.cons ?_ .nil)
    · exact ⟨hstands.name, hstands.file, hstands.hasProducer,
        hstands.ends.mono (fun _ => List.mem_append_left _)
          fun _ => extendTopics_of_declared hnames⟩
    · refine ⟨rfl, rfl, hproducer, fun side => ?_⟩
      obtain ⟨p, hp, htopic⟩ := exists_endsAt hnames hfits hcallee (side.stop_lt rule) side
      exact ⟨p, hp, Option.some.inj ((hends side).symm.trans htopic)⟩

/-- A rule that is built is added if no wire of it closes a cycle and all can be connected. -/
theorem exists_addRule (hnamed : rule.name ≠ "") (hnew : rs.rule? rule.name = none) {flow : Flow}
    {wires : List Wire} {s : Supply}
    (hmade : (rs.workshop file deps).MadeRule rule rs.supply flow wires s)
    (hcycle : firstCycle? rs.downstream wires = none)
    (hconnect : (rs.use s).connect wires = (.ok (), rs')) :
    (rs.addRule file rule deps).1 = .ok () := by
  have htry : rs.tryRule file rule deps = (rs.use s).install file rule.name flow wires := by
    simp [tryRule, hnamed, hnew, Workshop.buildRule_eq_ok_iff.mpr hmade]
  have hdownstream : (rs.use s).downstream = rs.downstream := rfl
  rw [addRule, htry, install, hdownstream, hcycle, hconnect]

/-- The wires of a rule that is built are connected just when threads can be started for it. -/
theorem Holds.connect (h : rs.Holds registry config given done) {topic : Place → Topic}
    {wires : List Wire} {s : Supply}
    (hchart : Chart (done.map Prod.snd ++ [rule]) (rs.downstream ++ wires.map Wire.edge)
      (countNodes (done.map Prod.snd ++ [rule])) topic) :
    (Dispatchable given (done.map Prod.snd ++ [rule]) ∧
      ∃ rs', (rs.use s).connect wires = (.ok (), rs') ∧ rs'.Dispatched given) ∨
    (∃ e rs', (rs.use s).connect wires = (.error e, rs')) ∧
      ¬ Dispatchable given (done.map Prod.snd ++ [rule]) := by
  have hused : (rs.use s).Dispatched given := h.dispatched.congr rfl rfl rfl
  rcases hused.connect wires with ⟨hnamed, rs', hok, hdispatched⟩ | ⟨herror, hlacks⟩
  · refine .inl ⟨hchart.dispatchable_iff.mp ⟨fun e he => ?_, ?_⟩, rs', hok, hdispatched⟩
    · rcases List.mem_append.mp he with he | he
      · exact h.dispatched.named _ ((h.dispatched.sources _).mpr ⟨e, he, rfl⟩)
      · obtain ⟨w, hw, rfl⟩ := List.mem_map.mp he
        exact hnamed w hw
    · refine hdispatched.suffice.mono fun t ht => ?_
      obtain ⟨e, he, ht⟩ := ht
      exact ⟨e, (mem_downstream_connect hok).mpr he, ht⟩
  · refine .inr ⟨herror, fun hdispatchable => hlacks ?_⟩
    obtain ⟨hnamed, hsuffice⟩ := hchart.dispatchable_iff.mpr hdispatchable
    exact ⟨fun w hw => hnamed w.edge (List.mem_append_right _ (List.mem_map_of_mem hw)), hsuffice⟩

/-- What is admissible is added. -/
theorem Holds.ok_of_admissible (h : rs.Holds registry config given done)
    (hroom : countNodes (done.map Prod.snd) + rule.nodeCount ≤ NodeId.room)
    (hadmissible : Admissible registry config given done file deps rule) :
    (rs.addRule file rule deps).1 = .ok () := by
  obtain ⟨topic, hchart, -⟩ := h.chart
  have hacyclic : Acyclic rs.downstream := hchart.acyclic_iff.mpr h.cycleFree
  obtain ⟨flow, wires, s, hmade⟩ := Workshop.exists_madeRule_iff.mpr
    ⟨(show rule.body.Constructible rs.registry rs.config from
      h.registry ▸ h.config ▸ hadmissible.constructible), h.answers_iff.mpr hadmissible.calls⟩
  obtain ⟨-, topic', hchart', -⟩ := h.exists_chart hadmissible.new hroom hmade
  have hcycle : firstCycle? rs.downstream wires = none :=
    (firstCycle?_eq_none_iff hacyclic).mpr (hchart'.acyclic_iff.mpr hadmissible.cycleFree)
  rcases h.connect (s := s) hchart' with ⟨-, rs', hconnect, -⟩ | ⟨-, hlacks⟩
  · exact exists_addRule hadmissible.named (h.rule?_eq_none_iff.mpr hadmissible.new) hmade hcycle
      hconnect
  · exact absurd hadmissible.dispatchable hlacks

/-- A rule is added just when it is admissible, and the ruleset then holds it, too. -/
theorem Holds.addRule (h : rs.Holds registry config given done) (file : Path) (deps : List Path)
    (hroom : countNodes (done.map Prod.snd) + rule.nodeCount ≤ NodeId.room) :
    (∃ rs', rs.addRule file rule deps = (.ok (), rs') ∧
      Admissible registry config given done file deps rule ∧
      rs'.Holds registry config given (done ++ [(file, rule)])) ∨
    (∃ e rs', rs.addRule file rule deps = (.error e, rs')) ∧
      ¬ Admissible registry config given done file deps rule := by
  obtain ⟨topic, hchart, -⟩ := h.chart
  have hacyclic : Acyclic rs.downstream := hchart.acyclic_iff.mpr h.cycleFree
  have hrefused {e : GraphError} {rs' : Ruleset}
      (heq : rs.addRule file rule deps = (.error e, rs')) :
      ¬ Admissible registry config given done file deps rule := by
    intro hadmissible
    have hok := h.ok_of_admissible hroom hadmissible
    rw [heq] at hok
    cases hok
  rcases addRule_cases rs file rule deps with
    ⟨e, made, -, heq⟩ | ⟨t, s, rs', result, hlays, hending, heq⟩
  · exact .inr ⟨⟨_, _, heq⟩, hrefused heq⟩
  cases hending with
  | torn => exact .inr ⟨⟨_, _, heq⟩, hrefused heq⟩
  | whole left =>
    have hadded : t.added = [t.rule] := by rw [Strand.added, left]; rfl
    have hmade := hlays.made
    have hcycle := hlays.acyclic
    rw [left, List.append_nil] at hmade hcycle
    have hnew := h.rule?_eq_none_iff.mp hlays.absent
    obtain ⟨hconstructible, hanswers⟩ := Workshop.exists_madeRule_iff.mp ⟨_, _, _, hmade⟩
    obtain ⟨hnames, topic', hchart', hrules⟩ := h.exists_chart hnew hroom hmade
    have hcycleFree := hchart'.acyclic_iff.mp ((firstCycle?_eq_none_iff hacyclic).mp hcycle)
    obtain ⟨hsupply, -⟩ := hmade.fits h.next file
    have hconnected := hlays.connected
    rcases h.connect (s := s) hchart' with
      ⟨hdispatchable, rs₁, hok, hdispatched⟩ | ⟨⟨e, rs₁, hfails⟩, -⟩
    · obtain rfl : rs₁ = rs' := congrArg Prod.snd (hok.symm.trans hconnected)
      have hdownstream := fun e => mem_downstream_connect hconnected (e := e)
      refine .inl ⟨_, heq, ⟨by simpa using hlays.named, hnew, ?_, h.answers_iff.mp hanswers,
        hcycleFree, hdispatchable⟩, ?_⟩
      · exact h.registry ▸ h.config ▸ hconstructible
      · obtain ⟨bus, downstream, threads, hframe⟩ := connect_frame (rs.use s) t.wires
        rw [hconnected] at hframe
        cases hframe
        refine ⟨h.registry, h.config, hdispatched.congr rfl rfl rfl, ?_, ?_, ?_, topic', ?_, ?_⟩
        · refine hsupply.trans ?_
          simp [countNodes]
        · simpa using hnames
        · simpa using hcycleFree
        · simpa using hchart'.congr hdownstream
        · rw [List.map_append, hadded, hlays.rule_eq]
          exact hrules
    · cases hconnected.symm.trans hfails

/-- The rules of a file are added just when each of them is admissible behind those in front. -/
theorem Holds.addRules {rules : List Rule} (h : rs.Holds registry config given done) (file : Path)
    (deps : List Path) (hroom : countNodes (done.map Prod.snd ++ rules) ≤ NodeId.room) :
    (∃ rs', rs.addRules file deps rules = (.ok (), rs') ∧
      (∀ before rule after, rules = before ++ rule :: after →
        Admissible registry config given (done ++ before.map (file, ·)) file deps rule) ∧
      rs'.Holds registry config given (done ++ rules.map (file, ·))) ∨
    (∃ e rs', rs.addRules file deps rules = (.error e, rs')) ∧
      ∃ before rule after, rules = before ++ rule :: after ∧
        ¬ Admissible registry config given (done ++ before.map (file, ·)) file deps rule := by
  induction rules generalizing rs done with
  | nil => exact .inl ⟨rs, rfl, by simp, by simpa using h⟩
  | cons rule rest ih =>
    have hfirst : countNodes (done.map Prod.snd) + rule.nodeCount ≤ NodeId.room := by
      simp only [countNodes, List.map_append, List.map_cons, List.sum_append, List.sum_cons]
        at hroom ⊢
      omega
    rcases h.addRule file deps hfirst with
      ⟨rs₁, hadd, hadmissible, hholds⟩ | ⟨⟨e, rs', hadd⟩, hrefused⟩
    · have hrest := ih hholds (by simpa using hroom)
      have hadds : rs.addRules file deps (rule :: rest) = rs₁.addRules file deps rest := by
        rw [Ruleset.addRules, hadd]
      rw [hadds]
      rcases hrest with ⟨rs', hok, hall, hholds'⟩ | ⟨herror, before, r, after, rfl, hrefused⟩
      · refine .inl ⟨rs', hok, fun before r after hsplit => ?_, by simpa using hholds'⟩
        cases before with
        | nil =>
          obtain ⟨rfl, rfl⟩ := List.cons.inj hsplit
          simpa using hadmissible
        | cons _ before =>
          obtain ⟨rfl, htail⟩ := List.cons.inj hsplit
          simpa using hall before r after htail
      · exact .inr ⟨herror, rule :: before, r, after, rfl, by simpa using hrefused⟩
    · exact .inr ⟨⟨e, rs', by rw [Ruleset.addRules, hadd]⟩, [], rule, rest, rfl,
        by simpa using hrefused⟩

theorem addRules_frame (rs : Ruleset) (file : Path) (deps : List Path) (rules : List Rule) :
    (rs.addRules file deps rules).2.compiled = rs.compiled ∧
      (rs.addRules file deps rules).2.inProgress = rs.inProgress := by
  refine addRules_induction
    (P := fun r => r.compiled = rs.compiled ∧ r.inProgress = rs.inProgress)
    (fun r file rule deps h => ?_) file deps rules ⟨rfl, rfl⟩
  rcases addRule_cases r file rule deps with
    ⟨e, made, -, heq⟩ | ⟨t, s, r', result, hlays, -, heq⟩
  · rw [heq]
    exact h
  · obtain ⟨bus, downstream, threads, hframe⟩ := connect_frame (r.use s) t.wires
    rw [hlays.connected] at hframe
    cases hframe
    rw [heq]
    exact h

end Ruleset
end RuleGraph
