import Mathlib
import RuleGraph.Proofs.Graph.Subscriptions

/-!
# A rule is added as a whole or not at all

A ruleset that refuses a rule stays as it was but for the numbers it used up; one that takes it has
the rule and its wires besides, behind all that was there. Only a thread that the system does not
start breaks a rule off in the middle: the rule is not added, but the wires in front stay connected.
So in every history, over an open bus or one that was shut down, the order of definition lists each
rule once.
-/
namespace RuleGraph

namespace Bus

variable {bus : Bus FilterNode} {topic : Topic} {n : FilterNode}

/-- A subscriber comes behind those that the topic has, and no other topic gets it. -/
theorem subscribers_join (hopen : bus.closed = false) (t : Topic) :
    (bus.join topic n).subscribers t =
      bus.subscribers t ++ if t = topic then [n] else [] := by
  unfold join
  split
  · rename_i hsome
    let add (c : Channel FilterNode) : Channel FilterNode :=
      { c with subscribers := c.subscribers ++ [n] }
    have hopen' : (bus.update topic add).closed = false := hopen
    rw [subscribers, subscribers, hopen', hopen, channel?_update bus add fun c => rfl]
    cases hchannel : bus.channel? t with
    | none =>
      have hne : t ≠ topic := by
        rintro rfl
        simp [hchannel] at hsome
      simp [hne]
    | some c =>
      have htopic : c.topic = t := by simpa using List.find?_some hchannel
      by_cases heq : t = topic
      · simp [htopic, heq, add]
      · simp [htopic, heq]
  · rename_i hnone
    have hnone : bus.channels.find? (fun c => c.topic = topic) = none := by
      simpa [channel?] using hnone
    simp only [subscribers, hopen, channel?, List.find?_append]
    by_cases heq : t = topic
    · subst heq
      simp [hnone]
    · cases bus.channels.find? fun c => c.topic = t <;> simp [heq, Ne.symm heq]

end Bus

namespace Ruleset

variable {rs rs' : Ruleset} {file : Path} {rule : Rule} {deps : List Path}

/-- Connecting wires puts their targets, in order, behind the subscribers of their topics. -/
theorem subscribers_connect {wires : List Wire} (h : rs.connect wires = (.ok (), rs'))
    (t : Topic) : rs'.bus.subscribers t =
      rs.bus.subscribers t ++ (wires.filter fun w => w.topic = t).map Wire.target := by
  induction wires generalizing rs with
  | nil =>
    cases h
    simp
  | cons w rest ih =>
    rcases connect_cons h with ⟨_, _, heq⟩ | ⟨threads, hopen, -, hrest⟩
    · cases heq
    · have hstep : (rs.bus.join w.topic w.target).subscribers t = _ :=
        Bus.subscribers_join hopen t
      rw [ih hrest, wired, hstep, List.append_assoc]
      by_cases heq : w.topic = t
      · simp [heq]
      · simp [heq, Ne.symm heq]

/-! ### What is refused, and what is added -/

/-- A ruleset that differs from another in the numbers used up, and in what it told of them. -/
structure Untouched (rs rs' : Ruleset) : Prop where
  rules : rs'.rules = rs.rules
  found : ∀ name, rs'.rule? name = rs.rule? name
  order : rs'.ruleNames = rs.ruleNames
  roots : rs'.rootNames = rs.rootNames
  compiled : rs'.compiled = rs.compiled
  inProgress : rs'.inProgress = rs.inProgress
  downstream : rs'.downstream = rs.downstream
  bus : rs'.bus = rs.bus
  used : ∃ made, rs' = rs.use (rs.supply.takeAll made)

/-- A ruleset that has one rule more than another, with its wires. -/
structure Extends (rs rs' : Ruleset) (file : Path) (rule : Rule) (flow : Flow)
    (wires : List Wire) : Prop where
  absent : rs.rule? rule.name = none
  added : rs'.rule? rule.name = some ⟨rule.name, file, flow⟩
  others : ∀ name, name ≠ rule.name → rs'.rule? name = rs.rule? name
  order : rs'.ruleNames = rs.ruleNames ++ [rule.name]
  roots : rs'.rootNames = rs.rootNames ++ if rule.body.producer?.isSome then [rule.name] else []
  compiled : rs'.compiled = rs.compiled
  inProgress : rs'.inProgress = rs.inProgress
  downstream : ∀ e, e ∈ rs'.downstream ↔ e ∈ rs.downstream ∨ e ∈ wires.map Wire.edge
  subscribers : ∀ topic, rs'.bus.subscribers topic =
    rs.bus.subscribers topic ++ (wires.filter fun w => w.topic = topic).map Wire.target

/-- A ruleset without a rule, of which it has some wires. -/
structure Torn (rs rs' : Ruleset) (rule : Rule) (wires : List Wire) : Prop where
  absent : rs.rule? rule.name = none
  rules : rs'.rules = rs.rules
  found : ∀ name, rs'.rule? name = rs.rule? name
  order : rs'.ruleNames = rs.ruleNames
  roots : rs'.rootNames = rs.rootNames
  compiled : rs'.compiled = rs.compiled
  inProgress : rs'.inProgress = rs.inProgress
  downstream : ∀ e, e ∈ rs'.downstream ↔ e ∈ rs.downstream ∨ e ∈ wires.map Wire.edge
  subscribers : ∀ topic, rs'.bus.subscribers topic =
    rs.bus.subscribers topic ++ (wires.filter fun w => w.topic = topic).map Wire.target

theorem untouched_use (made : List (String × Params)) :
    rs.Untouched (rs.use (rs.supply.takeAll made)) :=
  ⟨rfl, fun _ => rfl, rfl, rfl, rfl, rfl, rfl, rfl, made, rfl⟩

theorem isSome_producer?_of_madeRule {w : Workshop} {s s' : Supply} {flow : Flow}
    {wires : List Wire} (h : w.MadeRule rule s flow wires s') :
    flow.producer?.isSome = rule.body.producer?.isSome := by
  cases h with
  | fragment body _ => rw [body]; rfl
  | produced body _ _ _ => rw [body]; rfl

/-- What is put behind the rules of a ruleset with all its wires extends it. -/
theorem Lays.extends {t : Strand} {s : Supply} (h : rs.Lays file rule deps t s rs')
    (hleft : t.left = []) :
    rs.Extends { rs' with rules := rs'.rules ++ t.added } file rule t.rule.flow t.wires := by
  have hadded : t.added = [⟨rule.name, file, t.rule.flow⟩] := by
    rw [Strand.added, hleft, ← h.rule_eq]
    rfl
  have hproducer := isSome_producer?_of_madeRule h.made
  have hfind : rs.rules.find? (fun r => r.name = rule.name) = none := h.absent
  have hdownstream (e : Edge) := mem_downstream_connect h.connected (e := e)
  have hsubscribers := subscribers_connect h.connected
  obtain ⟨bus, downstream, threads, hframe⟩ := connect_frame (rs.use s) t.wires
  rw [h.connected] at hframe
  cases hframe
  rw [hadded]
  refine ⟨h.absent, ?_, fun name hne => ?_, ?_, ?_, rfl, rfl, fun e => ?_, hsubscribers⟩
  · simp [rule?, use, List.find?_append, hfind]
  · simp [rule?, use, List.find?_append, Ne.symm hne]
  · simp [ruleNames, use]
  · rw [← hproducer]
    cases h : t.rule.flow.producer? with
    | none => simp [rootNames, roots, use, CompiledRule.hasProducer, CompiledRule.producer?, h]
    | some p => simp [rootNames, roots, use, CompiledRule.hasProducer, CompiledRule.producer?, h]
  · rw [hdownstream e, List.mem_append]
    rfl

/-- What is broken off leaves the wires that were connected. -/
theorem Lays.torn {t : Strand} {s : Supply} (h : rs.Lays file rule deps t s rs')
    (hleft : t.left ≠ []) :
    rs.Torn { rs' with rules := rs'.rules ++ t.added } rule t.wires := by
  have hadded : t.added = [] := by rw [Strand.added, if_neg (by simpa using hleft)]
  have hdownstream (e : Edge) := mem_downstream_connect h.connected (e := e)
  have hsubscribers := subscribers_connect h.connected
  obtain ⟨bus, downstream, threads, hframe⟩ := connect_frame (rs.use s) t.wires
  rw [h.connected] at hframe
  cases hframe
  rw [hadded, List.append_nil]
  refine ⟨h.absent, rfl, fun _ => rfl, rfl, rfl, rfl, rfl, fun e => ?_, hsubscribers⟩
  rw [hdownstream e, List.mem_append]
  rfl

/-- Adding a rule refuses it and leaves the rest as it was, or takes it with its wires, or stands
still at the first of them whose thread is not started. -/
theorem addRule_outcome (rs : Ruleset) (file : Path) (rule : Rule) (deps : List Path) :
    (∃ cause rs', rs.addRule file rule deps = (.error (.inRule file rule.name cause), rs') ∧
      rs.Refuses file rule deps cause ∧ rs.Untouched rs') ∨
    (∃ flow wires s rs', rs.addRule file rule deps = (.ok (), rs') ∧
      (rs.workshop file deps).MadeRule rule rs.supply flow wires s ∧
      rs.Extends rs' file rule flow wires) ∨
    ∃ flow before w after s refusal rs',
      rs.addRule file rule deps =
        (.error (.inRule file rule.name (.ofRefusal w.topic refusal)), rs') ∧
      (rs.workshop file deps).MadeRule rule rs.supply flow (before ++ w :: after) s ∧
      rs'.bus.closed = false ∧
      rs'.bus.subscribe rs'.threads w.topic w.target = .error refusal ∧
      rs.Torn rs' rule before := by
  rcases addRule_cases rs file rule deps with
    ⟨e, made, hrefuses, heq⟩ | ⟨t, s, rs', result, hlays, hending, heq⟩
  · exact .inl ⟨e, _, heq, hrefuses, untouched_use made⟩
  · cases hending with
    | whole left =>
      have hmade := hlays.made
      rw [left, List.append_nil] at hmade
      exact .inr (.inl ⟨_, _, s, _, heq, hmade, hlays.extends left⟩)
    | @torn w rest refusal left isOpen refused =>
      refine .inr (.inr ⟨_, t.wires, w, rest, s, refusal, _, heq, left ▸ hlays.made, isOpen,
        refused, hlays.torn ?_⟩)
      simp [left]

/-! ### Histories -/

/-- What happens to a ruleset while rules are added to it: a call, or the shutdown of its bus. -/
inductive Act
  | call (c : Call)
  | shutdown

def act (rs : Ruleset) : Act → Ruleset
  | .call c => rs.call c
  | .shutdown => rs.shutdown

/-- The ruleset that a sequence of acts makes of a fresh one. -/
def afterActs (registry : Registry) (config : Config) (acts : List Act) : Ruleset :=
  acts.foldl act (.new registry config)

theorem mem_ruleNames {name : String} : name ∈ rs.ruleNames ↔ (rs.rule? name).isSome = true := by
  simp [ruleNames, rule?, List.find?_isSome]

theorem nodup_addRule (h : rs.ruleNames.Nodup) (file : Path) (rule : Rule) (deps : List Path) :
    (rs.addRule file rule deps).2.ruleNames.Nodup := by
  rcases addRule_outcome rs file rule deps with
    ⟨_, rs', heq, _, huntouched⟩ | ⟨_, _, _, rs', heq, _, hextends⟩ |
    ⟨_, _, _, _, _, _, rs', heq, _, _, _, htorn⟩
  · rw [heq, huntouched.order]
    exact h
  · have hnew : rule.name ∉ rs.ruleNames := by
      rw [mem_ruleNames, hextends.absent]
      simp
    rw [heq, hextends.order]
    rw [← List.concat_eq_append]
    exact h.concat hnew
  · rw [heq, htorn.order]
    exact h

theorem nodup_afterActs (registry : Registry) (config : Config) (acts : List Act) :
    (afterActs registry config acts).ruleNames.Nodup := by
  unfold afterActs
  induction acts using List.reverseRecOn with
  | nil => exact List.nodup_nil
  | append_singleton acts a ih =>
    rw [List.foldl_append]
    cases a with
    | call c =>
      refine call_induction (P := fun rs => rs.ruleNames.Nodup) (fun rs rs' hsame h => ?_)
        (fun _ file rule deps h => nodup_addRule h file rule deps) c ih
      rwa [ruleNames, hsame.rules]
    | shutdown => exact ih

/-- Where each name stands once, the rules that begin with a producer keep the order of all. -/
theorem rootNames_eq_filter (h : rs.ruleNames.Nodup) :
    rs.rootNames =
      rs.ruleNames.filter fun name => (rs.rule? name).any CompiledRule.hasProducer := by
  have hfound : ∀ r ∈ rs.rules, rs.rule? r.name = some r := by
    intro r hr
    obtain ⟨r', hr'⟩ := Option.isSome_iff_exists.mp
      (mem_ruleNames.mp (List.mem_map_of_mem hr : r.name ∈ rs.ruleNames))
    have hname : r'.name = r.name := by simpa using List.find?_some hr'
    rw [hr', List.inj_on_of_nodup_map h (List.mem_of_find?_eq_some hr') hr hname]
  rw [rootNames, roots, ruleNames, List.filter_map]
  refine congrArg _ (List.filter_congr fun r hr => ?_)
  simp [hfound r hr]

/-- A rule is refused for a cause and nothing is kept of it but used numbers, or it is added behind
what was there: one rule, and the wires it was built with. The system may also start no thread for a
wire; then the rule is not added, and what is kept are the wires in front of this one. So in every
history each rule is listed once, and those that begin with a producer are listed in the same
order. -/
theorem addRule_atomic (registry : Registry) (config : Config) (acts : List Act) :
    let rs := afterActs registry config acts
    (∀ (file : Path) (rule : Rule) (deps : List Path),
      (∃ cause rs', rs.addRule file rule deps = (.error (.inRule file rule.name cause), rs') ∧
        rs.Refuses file rule deps cause ∧ rs.Untouched rs') ∨
      (∃ flow wires s rs', rs.addRule file rule deps = (.ok (), rs') ∧
        (rs.workshop file deps).MadeRule rule rs.supply flow wires s ∧
        rs.Extends rs' file rule flow wires) ∨
      ∃ flow before w after s refusal rs',
        rs.addRule file rule deps =
          (.error (.inRule file rule.name (.ofRefusal w.topic refusal)), rs') ∧
        (rs.workshop file deps).MadeRule rule rs.supply flow (before ++ w :: after) s ∧
        rs'.bus.closed = false ∧
        rs'.bus.subscribe rs'.threads w.topic w.target = .error refusal ∧
        rs.Torn rs' rule before) ∧
    rs.ruleNames.Nodup ∧ (∀ name, name ∈ rs.ruleNames ↔ (rs.rule? name).isSome = true) ∧
    rs.rootNames =
      rs.ruleNames.filter fun name => (rs.rule? name).any CompiledRule.hasProducer := by
  intro rs
  have hnodup := nodup_afterActs registry config acts
  exact ⟨addRule_outcome rs, hnodup, fun name => mem_ruleNames, rootNames_eq_filter hnodup⟩

/-- Where the system starts one thread and no other, a rule of three filters is not added, but the
second of them is subscribed to the first. -/
theorem addRule_keeps_wire :
    let registry := Registry.empty.addFilter Echo.typeName Echo.make
    let echo : Link := .filter "echo" [] false
    let rule : Rule := ⟨"r", ⟨1, 1⟩, .fragment echo [echo, echo]⟩
    let rs := afterActs registry .empty [.call (.threads (.few 1 "no thread"))]
    let rs' := (rs.addRule ⟨"m"⟩ rule []).2
    (rs.addRule ⟨"m"⟩ rule []).1 =
      .error (.inRule ⟨"m"⟩ "r" (.noThread ⟨"echo:1"⟩ "no thread")) ∧
    rs.downstream = [] ∧ rs'.downstream = [⟨⟨"echo:0"⟩, ⟨"echo:1"⟩⟩] ∧
    rs.bus.subscribers ⟨"echo:0"⟩ = [] ∧
    (rs'.bus.subscribers ⟨"echo:0"⟩).map FilterNode.topic = [⟨"echo:1"⟩] := by
  exact ⟨by cbv, rfl, by cbv, rfl, by cbv⟩

end Ruleset
end RuleGraph
