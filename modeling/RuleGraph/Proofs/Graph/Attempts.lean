import RuleGraph.Proofs.Graph.Nodes

/-!
# Attempts to add a rule

Calls change the graph of a ruleset by attempts to add rules and by nothing else. The attempts of a
call are listed here in order, each with the ruleset on which it is made; between them the state of
files may change, but not the graph. A call that succeeds makes no attempt that fails. An attempt is
broken off if the system does not start a thread for one of the wires of its rule.
-/
namespace RuleGraph.Ruleset

/-- An attempt to add a rule to a ruleset. -/
structure Attempt where
  rs : Ruleset
  file : Path
  rule : Rule
  deps : List Path

def Attempt.result (a : Attempt) : Outcome Unit := a.rs.addRule a.file a.rule a.deps

def Attempt.Ok (a : Attempt) : Prop := a.result.1 = .ok ()

/-- Go on with the result of a step if there is one. -/
def andThen {α β : Type} (result : Outcome α) (next : α → Ruleset → Outcome β) : Outcome β :=
  match result with
  | (.error e, rs) => (.error e, rs)
  | (.ok a, rs) => next a rs

/-- The attempts made behind a step, if it has a result. -/
def behind {α : Type} (result : Outcome α) (attempts : α → Ruleset → List Attempt) :
    List Attempt :=
  match result with
  | (.error _, _) => []
  | (.ok a, rs) => attempts a rs

/-! ### The attempts of a call -/

def addRulesAttempts (file : Path) (deps : List Path) : List Rule → Ruleset → List Attempt
  | [], _ => []
  | rule :: rest, rs =>
    [⟨rs, file, rule, deps⟩] ++
      behind (rs.addRule file rule deps) fun _ rs => addRulesAttempts file deps rest rs

section Compiling

variable (compile : RuleFile → Ruleset → Outcome (List Path))
  (attempts : RuleFile → Ruleset → List Attempt) (files : ParsedFiles)

def importsAttempts : List Path → Ruleset → List Attempt
  | [], _ => []
  | path :: rest, rs =>
    match files.get? path with
    | none => []
    | some imported =>
      attempts imported rs ++ behind (compile imported rs) fun _ rs => importsAttempts rest rs

def bodyAttempts (file : RuleFile) (rs : Ruleset) : List Attempt :=
  importsAttempts compile attempts files file.imports rs ++
    behind (compileImports compile files file.path [] file.imports rs) fun deps rs =>
      addRulesAttempts file.path deps file.rules
        (rs.note (.compiling file.path file.rules.length deps.length))

end Compiling

/-- A file makes attempts if it is neither compiled nor in progress. -/
def withinAttempts (files : ParsedFiles) : Nat → RuleFile → Ruleset → List Attempt
  | 0, _, _ => []
  | depth + 1, file, rs =>
    if rs.isCompiled file.path || hasPath rs.inProgress file.path then []
    else
      bodyAttempts (compileWithin files depth) (withinAttempts files depth) files file
        (rs.enter file.path)

def compileAttempts (files : ParsedFiles) (file : RuleFile) (rs : Ruleset) : List Attempt :=
  withinAttempts files (files.length + 2) file rs

def eachAttempts (files : ParsedFiles) : List RuleFile → Ruleset → List Attempt
  | [], _ => []
  | file :: rest, rs =>
    compileAttempts files file rs ++
      behind (rs.compile files file) fun _ rs => eachAttempts files rest rs

def attempts (rs : Ruleset) : Call → List Attempt
  | .addRule file rule deps => [⟨rs, file, rule, deps⟩]
  | .compile files file => compileAttempts files file rs
  | .compileAll files => eachAttempts files files.values rs
  | .threads _ => []

/-- The attempts of a sequence of calls. -/
def attemptsOf (rs : Ruleset) : List Call → List Attempt
  | [] => []
  | c :: rest => rs.attempts c ++ attemptsOf (rs.call c) rest

def Succeeds (rs : Ruleset) : Call → Prop
  | .addRule file rule deps => (rs.addRule file rule deps).1 = .ok ()
  | .compile files file => ∃ deps, (rs.compile files file).1 = .ok deps
  | .compileAll files => (rs.compileAll files).1 = .ok ()
  | .threads _ => True

/-! ### Steps one after the other -/

theorem addRules_cons (rs : Ruleset) (file : Path) (deps : List Path) (rule : Rule)
    (rest : List Rule) :
    rs.addRules file deps (rule :: rest) =
      andThen (rs.addRule file rule deps) fun _ rs => rs.addRules file deps rest := by
  rw [addRules]
  obtain ⟨_ | _, rs'⟩ := rs.addRule file rule deps <;> rfl

theorem compileImports_cons {compile : RuleFile → Ruleset → Outcome (List Path)}
    {files : ParsedFiles} {path : Path} {imported : RuleFile}
    (hget : files.get? path = some imported) (file : Path) (deps rest : List Path) (rs : Ruleset) :
    compileImports compile files file deps (path :: rest) rs =
      andThen (compile imported rs) fun transitive rs =>
        compileImports compile files file (addPaths deps (transitive ++ [path])) rest rs := by
  simp only [compileImports, hget]
  obtain ⟨_ | _, rs'⟩ := compile imported rs <;> rfl

theorem compileBody_eq (compile : RuleFile → Ruleset → Outcome (List Path)) (files : ParsedFiles)
    (file : RuleFile) (rs : Ruleset) :
    compileBody compile files file rs =
      andThen (compileImports compile files file.path [] file.imports rs) fun deps rs =>
        andThen ((rs.note (.compiling file.path file.rules.length deps.length)).addRules file.path
          deps file.rules) fun _ rs => (.ok deps, rs) := by
  rw [compileBody]
  obtain ⟨_ | deps, rs'⟩ := compileImports compile files file.path [] file.imports rs
  · rfl
  · simp only [andThen]
    obtain ⟨_ | _, rs''⟩ := Ruleset.addRules _ file.path deps file.rules <;> rfl

theorem compileEach_cons (rs : Ruleset) (files : ParsedFiles) (file : RuleFile)
    (rest : List RuleFile) :
    rs.compileEach files (file :: rest) =
      andThen (rs.compile files file) fun _ rs => rs.compileEach files rest := by
  rw [compileEach]
  obtain ⟨_ | _, rs'⟩ := rs.compile files file <;> rfl

theorem andThen_eq_ok_iff {α β : Type} {result : Outcome α} {next : α → Ruleset → Outcome β} {b : β}
    {rs : Ruleset} :
    andThen result next = (.ok b, rs) ↔
      ∃ a rs', result = (.ok a, rs') ∧ next a rs' = (.ok b, rs) := by
  obtain ⟨_ | a, rs'⟩ := result <;> simp [andThen]

/-! ### Attempts account for all that happens to the graph -/

/-- From one ruleset to another, attempts are made one after the other. -/
inductive Attempted : Ruleset → List Attempt → Ruleset → Prop
  | done {rs rs' : Ruleset} (same : SameGraph rs rs') : Attempted rs [] rs'
  | next {rs rs' : Ruleset} {a : Attempt} {as : List Attempt} (same : SameGraph rs a.rs)
      (rest : Attempted a.result.2 as rs') : Attempted rs (a :: as) rs'

variable {rs rs' rs'' : Ruleset} {as bs : List Attempt} {α β : Type}

theorem SameGraph.refl (rs : Ruleset) : SameGraph rs rs := ⟨rfl, rfl, rfl, rfl, rfl, rfl, rfl⟩

theorem SameGraph.trans (h : SameGraph rs rs') (h' : SameGraph rs' rs'') : SameGraph rs rs'' :=
  ⟨h'.registry.trans h.registry, h'.config.trans h.config, h'.bus.trans h.bus,
    h'.next.trans h.next, h'.rules.trans h.rules, h'.downstream.trans h.downstream,
    h'.issued.trans h.issued⟩

theorem Attempted.of_same (h : SameGraph rs rs') (hrest : Attempted rs' as rs'') :
    Attempted rs as rs'' := by
  cases hrest with
  | done same => exact .done (h.trans same)
  | next same rest => exact .next (h.trans same) rest

theorem Attempted.append (h : Attempted rs as rs') (h' : Attempted rs' bs rs'') :
    Attempted rs (as ++ bs) rs'' := by
  induction h with
  | done same => exact h'.of_same same
  | next same _ ih => exact .next same (ih h')

/-- A step makes attempts, and all of them succeed if it does. -/
structure Tries (rs : Ruleset) (as : List Attempt) (result : Outcome α) : Prop where
  attempted : Attempted rs as result.2
  ok : ∀ a, result.1 = .ok a → ∀ b ∈ as, b.Ok

theorem tries_nil {result : Outcome α} (h : SameGraph rs result.2) : Tries rs [] result :=
  ⟨.done h, by simp⟩

theorem tries_addRule (rs : Ruleset) (file : Path) (rule : Rule) (deps : List Path) :
    Tries rs [⟨rs, file, rule, deps⟩] (rs.addRule file rule deps) := by
  constructor
  · exact .next (.refl rs) (.done (.refl _))
  · intro _ hok b hb
    rw [List.mem_singleton.mp hb]
    exact hok

/-- What is done to the files before and behind a step changes nothing of its attempts. -/
theorem Tries.of_same {result : Outcome α} {result' : Outcome β} (h : Tries rs' as result)
    (hbefore : SameGraph rs rs') (hbehind : SameGraph result.2 result'.2)
    (hok : ∀ b, result'.1 = .ok b → ∃ a, result.1 = .ok a) : Tries rs as result' := by
  constructor
  · have hattempted := (h.attempted.of_same hbefore).append (.done hbehind)
    rwa [List.append_nil] at hattempted
  · intro b hb
    obtain ⟨a, ha⟩ := hok b hb
    exact h.ok a ha

theorem Tries.andThen {result : Outcome α} {next : α → Ruleset → Outcome β}
    {attempts : α → Ruleset → List Attempt} (h : Tries rs as result)
    (hnext : ∀ a rs', Tries rs' (attempts a rs') (next a rs')) :
    Tries rs (as ++ behind result attempts) (andThen result next) := by
  obtain ⟨_ | a, rs'⟩ := result
  · rw [behind, List.append_nil]
    exact ⟨h.attempted, by simp [Ruleset.andThen]⟩
  · have hrest := hnext a rs'
    refine ⟨h.attempted.append hrest.attempted, fun b hb c hc => ?_⟩
    rcases List.mem_append.mp hc with hc | hc
    · exact h.ok a rfl c hc
    · exact hrest.ok b hb c hc

/-- A step behind another that leaves the graph alone makes no attempts. -/
theorem Tries.andThen_same {result : Outcome α} {next : α → Ruleset → Outcome β}
    (h : Tries rs as result) (hnext : ∀ a rs', SameGraph rs' (next a rs').2) :
    Tries rs as (Ruleset.andThen result next) := by
  obtain ⟨_ | a, rs'⟩ := result
  · exact ⟨h.attempted, by simp [Ruleset.andThen]⟩
  · have hattempted := h.attempted.append (.done (hnext a rs'))
    rw [List.append_nil] at hattempted
    exact ⟨hattempted, fun _ _ => h.ok a rfl⟩

theorem tries_addRules (file : Path) (deps : List Path) (rules : List Rule) (rs : Ruleset) :
    Tries rs (addRulesAttempts file deps rules rs) (rs.addRules file deps rules) := by
  induction rules generalizing rs with
  | nil => exact tries_nil (.refl rs)
  | cons rule rest ih =>
    rw [addRules_cons]
    exact (tries_addRule rs file rule deps).andThen fun _ rs' => ih rs'

section Compiling

variable {compile : RuleFile → Ruleset → Outcome (List Path)}
  {attempts : RuleFile → Ruleset → List Attempt}
  (hcompile : ∀ file rs, Tries rs (attempts file rs) (compile file rs))
include hcompile

theorem tries_compileImports (files : ParsedFiles) (file : Path) (deps paths : List Path)
    (rs : Ruleset) :
    Tries rs (importsAttempts compile attempts files paths rs)
      (compileImports compile files file deps paths rs) := by
  induction paths generalizing deps rs with
  | nil => exact tries_nil (.refl rs)
  | cons path rest ih =>
    rw [importsAttempts]
    cases hget : files.get? path with
    | none =>
      rw [compileImports, hget]
      exact tries_nil (.refl rs)
    | some imported =>
      rw [compileImports_cons hget]
      exact (hcompile imported rs).andThen fun transitive rs' =>
        ih (addPaths deps (transitive ++ [path])) rs'

theorem tries_compileBody (files : ParsedFiles) (file : RuleFile) (rs : Ruleset) :
    Tries rs (bodyAttempts compile attempts files file rs) (compileBody compile files file rs) := by
  rw [compileBody_eq]
  apply (tries_compileImports hcompile files file.path [] file.imports rs).andThen
  intro deps rs'
  let noted := rs'.note (.compiling file.path file.rules.length deps.length)
  have hnoted : SameGraph rs' noted := sameGraph_note rs' file.path _ _
  have hrules := tries_addRules file.path deps file.rules noted
  have hbody : Tries noted (addRulesAttempts file.path deps file.rules noted)
      (andThen (noted.addRules file.path deps file.rules) fun _ rs =>
        ((.ok deps, rs) : Outcome (List Path))) :=
    hrules.andThen_same fun _ rs'' => .refl rs''
  exact hbody.of_same hnoted (.refl _) fun a ha => ⟨a, ha⟩

end Compiling

theorem tries_compileWithin (files : ParsedFiles) (depth : Nat) (file : RuleFile) (rs : Ruleset) :
    Tries rs (withinAttempts files depth file rs) (compileWithin files depth file rs) := by
  induction depth generalizing file rs with
  | zero => exact tries_nil (.refl rs)
  | succ depth ih =>
    rw [withinAttempts, compileWithin, isCompiled]
    cases rs.dependencies? file.path with
    | some deps => exact tries_nil (.refl rs)
    | none =>
      simp only [Option.isSome_none, Bool.false_or]
      split
      · exact tries_nil (.refl rs)
      · have hbody := tries_compileBody ih files file (rs.enter file.path)
        have hentered : SameGraph rs (rs.enter file.path) := ⟨rfl, rfl, rfl, rfl, rfl, rfl, rfl⟩
        generalize compileBody (compileWithin files depth) files file (rs.enter file.path) = result
          at hbody
        -- the record of files is no part of the graph
        obtain ⟨e | deps, rs'⟩ := result
        · exact hbody.of_same hentered (sameGraph_giveUp rs' file.path e) (by simp)
        · exact hbody.of_same hentered ⟨rfl, rfl, rfl, rfl, rfl, rfl, rfl⟩ fun _ _ => ⟨deps, rfl⟩

theorem tries_compileEach (files : ParsedFiles) (order : List RuleFile) (rs : Ruleset) :
    Tries rs (eachAttempts files order rs) (rs.compileEach files order) := by
  induction order generalizing rs with
  | nil => exact tries_nil (.refl rs)
  | cons file rest ih =>
    rw [compileEach_cons]
    exact (tries_compileWithin files (files.length + 2) file rs).andThen fun _ rs' => ih rs'

/-! ### Calls -/

theorem attempted_call (rs : Ruleset) (c : Call) : Attempted rs (rs.attempts c) (rs.call c) := by
  cases c with
  | addRule file rule deps => exact (tries_addRule rs file rule deps).attempted
  | compile files file => exact (tries_compileWithin files _ file rs).attempted
  | compileAll files => exact (tries_compileEach files files.values rs).attempted
  | threads given => exact .done ⟨rfl, rfl, rfl, rfl, rfl, rfl, rfl⟩

theorem Succeeds.attempts {c : Call} (h : rs.Succeeds c) : ∀ a ∈ rs.attempts c, a.Ok := by
  cases c with
  | addRule file rule deps => exact (tries_addRule rs file rule deps).ok () h
  | compile files file =>
    obtain ⟨deps, hok⟩ := h
    exact (tries_compileWithin files _ file rs).ok deps hok
  | compileAll files => exact (tries_compileEach files files.values rs).ok () h
  | threads given => simp [Ruleset.attempts]

theorem attempted_calls (calls : List Call) (rs : Ruleset) :
    Attempted rs (rs.attemptsOf calls) (calls.foldl call rs) := by
  induction calls generalizing rs with
  | nil => exact .done (.refl rs)
  | cons c rest ih => exact (attempted_call rs c).append (ih (rs.call c))

theorem attemptsOf_append (earlier later : List Call) (rs : Ruleset) :
    rs.attemptsOf (earlier ++ later) =
      rs.attemptsOf earlier ++ (earlier.foldl call rs).attemptsOf later := by
  induction earlier generalizing rs with
  | nil => rfl
  | cons c rest ih => rw [List.cons_append, attemptsOf, attemptsOf, ih, List.append_assoc]; rfl

/-- What holds of a fresh ruleset without attempts, does not hang on the state of its files and is
kept by every attempt holds in every history, of the attempts made in it. -/
theorem attempts_induction {P : List Attempt → Ruleset → Prop}
    (same : ∀ as rs rs', SameGraph rs rs' → P as rs → P as rs')
    (attempt : ∀ as a, P as a.rs → P (as ++ [a]) a.result.2) {registry : Registry}
    {config : Config} (new : P [] (.new registry config)) (calls : List Call) :
    P ((Ruleset.new registry config).attemptsOf calls) (after registry config calls) := by
  have hall {rs rs' : Ruleset} {as : List Attempt} (h : Attempted rs as rs') :
      ∀ before, P before rs → P (before ++ as) rs' := by
    induction h with
    | done hsame =>
      intro before hbefore
      rw [List.append_nil]
      exact same before _ _ hsame hbefore
    | next hsame _ ih =>
      intro before hbefore
      rw [List.append_cons]
      exact ih _ (attempt before _ (same before _ _ hsame hbefore))
  exact hall (attempted_calls calls _) [] new

/-! ### Attempts that are broken off -/

/-- The attempt ends at a wire, because the system does not start a thread for it. -/
def Attempt.BreaksOff (a : Attempt) : Prop :=
  ∃ topic refusal, refusal ≠ .closed ∧
    a.result.1 = .error (.inRule a.file a.rule.name (.ofRefusal topic refusal))

theorem Attempt.Ok.not_breaksOff {a : Attempt} (h : a.Ok) : ¬a.BreaksOff := by
  rintro ⟨topic, refusal, -, herror⟩
  cases herror.symm.trans h

theorem subscribe_ne_closed {σ : Type} {bus : Bus σ} (hopen : bus.closed = false)
    {threads : Threads} {topic : Topic} {n : σ} {refusal : Refusal}
    (h : bus.subscribe threads topic n = .error refusal) : refusal ≠ .closed := by
  rintro rfl
  unfold Bus.subscribe at h
  rw [hopen, if_neg Bool.false_ne_true] at h
  split at h
  · cases h
  · split at h
    · cases h
    · split at h <;> cases h

/-- An attempt that leaves a wire is broken off. -/
theorem Attempt.breaksOff_of_ending {a : Attempt} {t : Strand} {result : Except GraphError Unit}
    (h : Ending a.file a.rule.name t rs result) (heq : a.result.1 = result) (hleft : t.left ≠ []) :
    a.BreaksOff := by
  cases h with
  | whole left => exact absurd left hleft
  | @torn w _ refusal _ isOpen refused =>
    exact ⟨w.topic, refusal, subscribe_ne_closed isOpen refused, heq⟩

end RuleGraph.Ruleset
