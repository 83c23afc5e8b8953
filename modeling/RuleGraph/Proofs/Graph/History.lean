import RuleGraph.Graph.Ruleset
import RuleGraph.Proofs.Graph.Building
import RuleGraph.Proofs.Graph.Faults

/-!
# Histories of rulesets

A ruleset grows by calls that add a rule, compile a file or compile all files, each of which may
fail. `addRule_cases` says all that adding a rule can do: success appends the rule behind its
subscriptions, an error leaves the ruleset as it was but for the numbers used up, and a thread that
is refused breaks off the subscriptions of a rule, of which those in front stay. Compiling does
nothing else to a graph than add rules, so that what each added rule keeps holds in every history.
-/
namespace RuleGraph.Ruleset

/-- How many numbers were given out: the journal tells of each node that was made. -/
def issued (rs : Ruleset) : Nat := constructions rs.journal

/-- A call that may extend a ruleset. -/
inductive Call
  | addRule (file : Path) (rule : Rule) (deps : List Path)
  | compile (files : ParsedFiles) (file : RuleFile)
  | compileAll (files : ParsedFiles)
  /-- No call: from now on, the system answers like this when threads are to be started. -/
  | threads (given : Threads)

/-- The ruleset that a call leaves, whether it succeeds or not. -/
def call (rs : Ruleset) : Call → Ruleset
  | .addRule file rule deps => (rs.addRule file rule deps).2
  | .compile files file => (rs.compile files file).2
  | .compileAll files => (rs.compileAll files).2
  | .threads given => { rs with threads := given }

/-- The ruleset that a sequence of calls makes of a fresh one. -/
def after (registry : Registry) (config : Config) (calls : List Call) : Ruleset :=
  calls.foldl call (.new registry config)

/-! ### Subscribing -/

variable {rs rs' : Ruleset}

/-- Connecting a wire, if it is not refused, makes its target join an open bus. -/
theorem connect_cons {w : Wire} {rest : List Wire} {result : Outcome Unit}
    (h : rs.connect (w :: rest) = result) :
    (∃ refusal, rs.bus.subscribe rs.threads w.topic w.target = .error refusal ∧
      result = (.error (.ofRefusal w.topic refusal), rs)) ∨
    ∃ threads, rs.bus.closed = false ∧
      rs.bus.subscribe rs.threads w.topic w.target =
        .ok (rs.bus.join w.topic w.target, threads) ∧
      (rs.wired w (rs.bus.join w.topic w.target) threads).connect rest = result := by
  rw [connect] at h
  cases hsubscribe : rs.bus.subscribe rs.threads w.topic w.target with
  | error refusal =>
    rw [hsubscribe] at h
    exact .inl ⟨refusal, rfl, h.symm⟩
  | ok taken =>
    obtain ⟨bus, threads⟩ := taken
    obtain ⟨hopen, rfl⟩ := Bus.of_subscribe hsubscribe
    rw [hsubscribe] at h
    exact .inr ⟨threads, hopen, rfl, h⟩

/-- What each subscription keeps, connecting wires keeps. -/
theorem connect_induction {P : Ruleset → Prop}
    (step : ∀ (rs : Ruleset) (w : Wire) (threads : Threads), P rs → rs.bus.closed = false →
      P (rs.wired w (rs.bus.join w.topic w.target) threads))
    (wires : List Wire) (h : P rs) : P (rs.connect wires).2 := by
  induction wires generalizing rs with
  | nil => exact h
  | cons w rest ih =>
    rcases connect_cons rfl with ⟨_, _, heq⟩ | ⟨threads, hopen, _, heq⟩
    · rw [heq]
      exact h
    · rw [← heq]
      exact ih (step rs w threads h hopen)

theorem isOpen_connect (h : rs.bus.closed = false) (wires : List Wire) :
    (rs.connect wires).2.bus.closed = false :=
  connect_induction (P := fun rs => rs.bus.closed = false)
    (fun rs w _ _ hopen => (Bus.closed_join rs.bus w.topic w.target).trans hopen) wires h

/-- Wires are connected up to the first that is refused. -/
theorem connect_eq_error {wires : List Wire} {e : GraphError}
    (h : rs.connect wires = (.error e, rs')) :
    ∃ before w after refusal, wires = before ++ w :: after ∧ rs.connect before = (.ok (), rs') ∧
      rs'.bus.subscribe rs'.threads w.topic w.target = .error refusal ∧
      e = .ofRefusal w.topic refusal := by
  induction wires generalizing rs with
  | nil => cases h
  | cons w rest ih =>
    rcases connect_cons h with ⟨refusal, hrefused, heq⟩ | ⟨threads, _, hjoined, heq⟩
    · cases heq
      exact ⟨[], w, rest, refusal, rfl, rfl, hrefused, rfl⟩
    · obtain ⟨before, v, after, refusal, rfl, hconnect, hrest⟩ := ih heq
      refine ⟨w :: before, v, after, refusal, rfl, ?_, hrest⟩
      rw [connect, hjoined]
      exact hconnect

/-- A closed bus takes no wire. -/
theorem connect_of_closed (h : rs.bus.closed = true) {wires : List Wire}
    (hok : rs.connect wires = (.ok (), rs')) : wires = [] ∧ rs' = rs := by
  cases wires with
  | nil =>
    cases hok
    exact ⟨rfl, rfl⟩
  | cons w rest =>
    rcases connect_cons hok with ⟨_, _, heq⟩ | ⟨_, hopen, -⟩
    · cases heq
    · rw [h] at hopen
      cases hopen

/-! ### Adding a rule -/

/-- Why a rule is refused: the error and its cause. -/
inductive Refuses (rs : Ruleset) (file : Path) (rule : Rule) (deps : List Path) :
    GraphError → Prop
  | unnamed (empty : rule.name = "") : Refuses rs file rule deps .emptyRuleName
  | duplicate {other : CompiledRule} (taken : rs.rule? rule.name = some other) :
      Refuses rs file rule deps (.duplicateRule rule.name)
  | fault {e : GraphError} (fault : (rs.workshop file deps).Fault rule.body e) :
      Refuses rs file rule deps e
  | cycle {flow : Flow} {wires : List Wire} {s : Supply} {w : Wire}
      (made : (rs.workshop file deps).MadeRule rule rs.supply flow wires s)
      (closes : firstCycle? rs.downstream wires = some w) :
      Refuses rs file rule deps (.cyclicCall (w.call.getD rule.name))
  | closed {flow : Flow} {wires : List Wire} {s : Supply} {w : Wire}
      (made : (rs.workshop file deps).MadeRule rule rs.supply flow wires s) (mem : w ∈ wires)
      (shut : rs.bus.closed = true) : Refuses rs file rule deps (.closedBus w.topic)

/-- A rule that was built, with the wires that were connected for it, and with those that were not
because the thread for the first of them was refused. -/
structure Strand where
  rule : CompiledRule
  wires : List Wire
  left : List Wire

/-- The rule is added if no wire is left. -/
def Strand.added (t : Strand) : List CompiledRule := if t.left.isEmpty then [t.rule] else []

theorem Strand.mem_added {t : Strand} {r : CompiledRule} :
    r ∈ t.added ↔ t.left = [] ∧ r = t.rule := by
  unfold added
  split
  · simp_all
  · simp_all

/-- A rule is built and no wire of it closes a cycle, and wires are connected. -/
structure Lays (rs : Ruleset) (file : Path) (rule : Rule) (deps : List Path) (t : Strand)
    (s : Supply) (rs' : Ruleset) : Prop where
  named : rule.name.isEmpty = false
  absent : rs.rule? rule.name = none
  rule_eq : t.rule = ⟨rule.name, file, t.rule.flow⟩
  made : (rs.workshop file deps).MadeRule rule rs.supply t.rule.flow (t.wires ++ t.left) s
  acyclic : firstCycle? rs.downstream (t.wires ++ t.left) = none
  connected : (rs.use s).connect t.wires = (.ok (), rs')

/-- How adding a rule ends whose wires are connected: they all are, or the next one is refused
though the bus is open. -/
inductive Ending (file : Path) (name : String) (t : Strand) (rs : Ruleset) :
    Except GraphError Unit → Prop
  | whole (left : t.left = []) : Ending file name t rs (.ok ())
  | torn {w : Wire} {rest : List Wire} {refusal : Refusal} (left : t.left = w :: rest)
      (isOpen : rs.bus.closed = false)
      (refused : rs.bus.subscribe rs.threads w.topic w.target = .error refusal) :
      Ending file name t rs (.error (.inRule file name (.ofRefusal w.topic refusal)))

/-- Adding a rule is refused and uses up numbers at most; or wires of the rule are connected, and it
is appended if they are all. -/
theorem addRule_cases (rs : Ruleset) (file : Path) (rule : Rule) (deps : List Path) :
    (∃ e made, rs.Refuses file rule deps e ∧ rs.addRule file rule deps =
      (.error (.inRule file rule.name e), rs.use (rs.supply.takeAll made))) ∨
    ∃ t s rs' result, rs.Lays file rule deps t s rs' ∧ Ending file rule.name t rs' result ∧
      rs.addRule file rule deps = (result, { rs' with rules := rs'.rules ++ t.added }) := by
  have hunused : rs.use rs.supply = rs := by simp [use, supply]
  unfold addRule tryRule
  by_cases hempty : rule.name.isEmpty
  · exact .inl ⟨.emptyRuleName, [], .unnamed (by simpa using hempty), by simp [hempty, hunused]⟩
  by_cases hdup : (rs.rule? rule.name).isSome
  · obtain ⟨other, hother⟩ := Option.isSome_iff_exists.mp hdup
    exact .inl ⟨.duplicateRule rule.name, [], .duplicate hother,
      by simp [hempty, hdup, hunused]⟩
  rw [if_neg hempty, if_neg hdup]
  have hnamed : rule.name.isEmpty = false := Bool.eq_false_iff.mpr hempty
  have habsent : rs.rule? rule.name = none := by simpa using hdup
  cases hbuild : (rs.workshop file deps).buildRule rule rs.supply with
  | mk outcome s =>
    obtain ⟨made, hmade⟩ := Workshop.exists_takeAll_buildRule (w := rs.workshop file deps) rule
      rs.supply
    rw [hbuild] at hmade
    obtain rfl : s = rs.supply.takeAll made := hmade
    cases outcome with
    | error e => exact .inl ⟨e, made, .fault (Workshop.fault_of_buildRule hbuild), rfl⟩
    | ok built =>
      obtain ⟨flow, wires⟩ := built
      have hmade := Workshop.buildRule_eq_ok_iff.mp hbuild
      have hdownstream : (rs.use (rs.supply.takeAll made)).downstream = rs.downstream := rfl
      simp only [install, hdownstream]
      cases hcycle : firstCycle? rs.downstream wires with
      | some w =>
        exact .inl ⟨.cyclicCall (w.call.getD rule.name), made, .cycle hmade hcycle, rfl⟩
      | none =>
        simp only
        cases hconnect : (rs.use (rs.supply.takeAll made)).connect wires with
        | mk connected rs' =>
          cases connected with
          | error e =>
            obtain ⟨before, w, after, refusal, rfl, hbefore, hrefused, rfl⟩ :=
              connect_eq_error hconnect
            cases hclosed : (rs.use (rs.supply.takeAll made)).bus.closed with
            | true =>
              obtain ⟨-, rfl⟩ := connect_of_closed hclosed hbefore
              rw [Bus.subscribe, if_pos hclosed] at hrefused
              cases hrefused
              exact .inl ⟨_, made, .closed hmade (by simp) hclosed, rfl⟩
            | false =>
              have hopen := isOpen_connect hclosed before
              rw [hbefore] at hopen
              refine .inr ⟨⟨⟨rule.name, file, flow⟩, before, w :: after⟩, _, rs', _,
                ⟨hnamed, habsent, rfl, hmade, hcycle, hbefore⟩, .torn rfl hopen hrefused, ?_⟩
              simp [Strand.added]
          | ok _ =>
            rw [← List.append_nil wires] at hmade hcycle
            exact .inr ⟨⟨⟨rule.name, file, flow⟩, wires, []⟩, _, rs', _,
              ⟨hnamed, habsent, rfl, hmade, hcycle, hconnect⟩, .whole rfl, rfl⟩

/-! ### Compiling -/

/-- Rulesets with the same graph, which may differ in the state of their files, and in what the
system will answer. -/
structure SameGraph (rs rs' : Ruleset) : Prop where
  registry : rs'.registry = rs.registry
  config : rs'.config = rs.config
  bus : rs'.bus = rs.bus
  next : rs'.next = rs.next
  rules : rs'.rules = rs.rules
  downstream : rs'.downstream = rs.downstream
  issued : rs'.issued = rs.issued

theorem sameGraph_note (rs : Ruleset) (file : Path) (rules deps : Nat) :
    SameGraph rs (rs.note (.compiling file rules deps)) := by
  refine ⟨rfl, rfl, rfl, rfl, rfl, rfl, ?_⟩
  rw [Ruleset.issued, note, constructions_append]
  rfl

theorem sameGraph_giveUp (rs : Ruleset) (file : Path) (e : GraphError) :
    SameGraph rs (rs.giveUp file e) := by
  unfold giveUp
  split <;> exact ⟨rfl, rfl, rfl, rfl, rfl, rfl, rfl⟩

section Induction

variable {P : Ruleset → Prop}
  (same : ∀ rs rs' : Ruleset, SameGraph rs rs' → P rs → P rs')
  (add : ∀ (rs : Ruleset) (file : Path) (rule : Rule) (deps : List Path),
    P rs → P (rs.addRule file rule deps).2)

include add in
theorem addRules_induction (file : Path) (deps : List Path) (rules : List Rule) (h : P rs) :
    P (rs.addRules file deps rules).2 := by
  induction rules generalizing rs with
  | nil => exact h
  | cons rule rest ih =>
    have hstep := add rs file rule deps h
    rw [addRules]
    split <;> rename_i heq <;> rw [heq] at hstep
    · exact hstep
    · exact ih hstep

theorem compileImports_induction {compile : RuleFile → Ruleset → Outcome (List Path)}
    (hcompile : ∀ file rs, P rs → P (compile file rs).2) (files : ParsedFiles) (file : Path)
    (deps paths : List Path) (h : P rs) :
    P (compileImports compile files file deps paths rs).2 := by
  induction paths generalizing rs deps with
  | nil => exact h
  | cons path rest ih =>
    rw [compileImports]
    split
    · exact h
    · rename_i imported _
      have hstep := hcompile imported rs h
      split <;> rename_i heq <;> rw [heq] at hstep
      · exact hstep
      · exact ih _ hstep

include same add

theorem compileBody_induction {compile : RuleFile → Ruleset → Outcome (List Path)}
    (hcompile : ∀ file rs, P rs → P (compile file rs).2) (files : ParsedFiles) (file : RuleFile)
    (h : P rs) : P (compileBody compile files file rs).2 := by
  have himports := compileImports_induction hcompile files file.path [] file.imports h
  rw [compileBody]
  split <;> rename_i heq <;> rw [heq] at himports
  · exact himports
  · rename_i deps rs₁
    have hrules := addRules_induction add file.path deps file.rules
      (same _ _ (sameGraph_note rs₁ file.path file.rules.length deps.length) himports)
    split <;> rename_i heq' <;> rw [heq'] at hrules <;> exact hrules

theorem compileWithin_induction (files : ParsedFiles) (depth : Nat) (file : RuleFile) (h : P rs) :
    P (compileWithin files depth file rs).2 := by
  induction depth generalizing file rs with
  | zero => exact h
  | succ depth ih =>
    rw [compileWithin]
    split
    · exact h
    · split
      · exact h
      · have hentered : P (rs.enter file.path) :=
          same rs _ ⟨rfl, rfl, rfl, rfl, rfl, rfl, rfl⟩ h
        have hbody : P (compileBody (compileWithin files depth) files file
            (rs.enter file.path)).2 :=
          compileBody_induction same add (fun file rs h => ih file h) files file hentered
        split <;> rename_i rs₁ heq <;> rw [heq] at hbody
        · exact same rs₁ _ (sameGraph_giveUp rs₁ file.path _) hbody
        · exact same rs₁ _ ⟨rfl, rfl, rfl, rfl, rfl, rfl, rfl⟩ hbody

theorem compileEach_induction (files : ParsedFiles) (order : List RuleFile) (h : P rs) :
    P (rs.compileEach files order).2 := by
  induction order generalizing rs with
  | nil => exact h
  | cons file rest ih =>
    have hstep := compileWithin_induction same add files (files.length + 2) file h
    rw [compileEach]
    split <;> rename_i heq <;> rw [compile] at heq <;> rw [heq] at hstep
    · exact hstep
    · exact ih hstep

theorem call_induction (c : Call) (h : P rs) : P (rs.call c) := by
  cases c with
  | addRule file rule deps => exact add rs file rule deps h
  | compile files file => exact compileWithin_induction same add files _ file h
  | compileAll files => exact compileEach_induction same add files _ h
  | threads given => exact same rs _ ⟨rfl, rfl, rfl, rfl, rfl, rfl, rfl⟩ h

theorem calls_induction (calls : List Call) (h : P rs) : P (calls.foldl call rs) := by
  induction calls generalizing rs with
  | nil => exact h
  | cons c rest ih => exact ih (call_induction same add c h)

/-- What holds of a fresh ruleset, does not hang on the state of its files and is kept whenever a
rule is added holds in every history. -/
theorem after_induction {registry : Registry} {config : Config} (new : P (.new registry config))
    (calls : List Call) : P (after registry config calls) :=
  calls_induction same add calls new

end Induction
end RuleGraph.Ruleset
