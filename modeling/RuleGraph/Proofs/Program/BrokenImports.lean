import RuleGraph.Proofs.Program.Acceptance

/-!
# Broken imports

Imports may lead to a file that is missing, or round in a circle. A file from which they do is never
compiled, and nothing of it is added: its rules come behind its imports, and one of these fails. On
the way back every file that was begun is taken from those in progress, whether it was compiled or
not, so that no call finds traces of a failure before it. Only a panic leaves files there.
-/
namespace RuleGraph

namespace ParsedFiles

variable {files : ParsedFiles} {f g : RuleFile}

/-- All that the file imports is there, and is importable in turn. -/
inductive Importable (files : ParsedFiles) : RuleFile → Prop
  | behind {f : RuleFile} (found : ∀ path ∈ f.imports, ∃ g, files.get? path = some g)
      (imports : ∀ g, files.Imports f g → Importable files g) : Importable files f

/-- Paths in progress that belong to different files. -/
def Begun (files : ParsedFiles) (inProgress : List Path) : Prop :=
  ∃ stack : List RuleFile, (∀ g ∈ stack, g ∈ files.values) ∧ stack.Nodup ∧
    inProgress = stack.map RuleFile.path

end ParsedFiles

namespace Ruleset

variable {rs rs' rs'' : Ruleset} {files : ParsedFiles} {f : RuleFile} {path : Path} {rule : Rule}
  {deps inProgress : List Path} {compile : RuleFile → Ruleset → Outcome (List Path)}

/-! ### What compiling leaves behind -/

/-- Under the name of the rule stands what was made of it for the file. -/
def Registers (rs : Ruleset) (file : Path) (rule : Rule) : Prop :=
  ∃ w s flow wires s', Workshop.MadeRule w rule s flow wires s' ∧
    rs.rule? rule.name = some ⟨rule.name, file, flow⟩

/-- A ruleset that has lost nothing of another. -/
structure Grows (rs rs' : Ruleset) : Prop where
  compiled : rs.compiled <+: rs'.compiled
  rules : rs.rules <+: rs'.rules

/-- A file whose imports are compiled, and whose rules were all added. -/
structure Finished (rs : Ruleset) (files : ParsedFiles) (f : RuleFile) : Prop where
  importable : files.Importable f
  imports : ∀ g, files.Imports f g → rs.isCompiled g.path = true
  rules : ∀ r ∈ f.rules, rs.Registers f.path r

/-- The files on record are finished, and all rules are those of importable files. -/
structure Accounts (rs : Ruleset) (files : ParsedFiles) : Prop where
  record : ∀ c ∈ rs.compiled, ∃ f ∈ files.values, c.1 = f.path ∧ rs.Finished files f
  owners : ∀ c ∈ rs.rules, ∃ f ∈ files.values, c.file = f.path ∧ files.Importable f

theorem isCompiled_iff : rs.isCompiled path = true ↔ ∃ c ∈ rs.compiled, path.same c.1 = true := by
  simp [isCompiled, dependencies?, List.find?_isSome]

theorem Grows.of_eq (hcompiled : rs'.compiled = rs.compiled) (hrules : rs'.rules = rs.rules) :
    rs.Grows rs' :=
  ⟨hcompiled ▸ List.prefix_refl _, hrules ▸ List.prefix_refl _⟩

theorem Grows.refl (rs : Ruleset) : rs.Grows rs := .of_eq rfl rfl

theorem Grows.trans (h : rs.Grows rs') (h' : rs'.Grows rs'') : rs.Grows rs'' :=
  ⟨h.compiled.trans h'.compiled, h.rules.trans h'.rules⟩

theorem Grows.isCompiled (h : rs.Grows rs') (hcompiled : rs.isCompiled path = true) :
    rs'.isCompiled path = true := by
  rw [isCompiled_iff] at hcompiled ⊢
  obtain ⟨c, hc, hsame⟩ := hcompiled
  exact ⟨c, h.compiled.subset hc, hsame⟩

theorem Grows.registers (h : rs.Grows rs') (hregisters : rs.Registers path rule) :
    rs'.Registers path rule := by
  obtain ⟨w, s, flow, wires, s', hmade, hfound⟩ := hregisters
  refine ⟨w, s, flow, wires, s', hmade, ?_⟩
  obtain ⟨more, hmore⟩ := h.rules
  rw [rule?] at hfound ⊢
  rw [← hmore, List.find?_append, hfound, Option.some_or]

theorem Grows.finished (h : rs.Grows rs') (hfinished : rs.Finished files f) :
    rs'.Finished files f :=
  ⟨hfinished.importable, fun g hg => h.isCompiled (hfinished.imports g hg),
    fun r hr => h.registers (hfinished.rules r hr)⟩

/-- A ruleset keeps its account if all that it has more is accounted for. -/
theorem Accounts.grow (h : rs.Accounts files) (hgrows : rs.Grows rs')
    (hrecord : ∀ c ∈ rs'.compiled, c ∈ rs.compiled ∨
      ∃ f ∈ files.values, c.1 = f.path ∧ rs'.Finished files f)
    (howners : ∀ c ∈ rs'.rules, c ∈ rs.rules ∨
      ∃ f ∈ files.values, c.file = f.path ∧ files.Importable f) : rs'.Accounts files := by
  constructor
  · intro c hc
    rcases hrecord c hc with hold | hnew
    · obtain ⟨f, hf, hpath, hfinished⟩ := h.record c hold
      exact ⟨f, hf, hpath, hgrows.finished hfinished⟩
    · exact hnew
  · intro c hc
    rcases howners c hc with hold | hnew
    · exact h.owners c hold
    · exact hnew

theorem Accounts.of_eq (h : rs.Accounts files) (hcompiled : rs'.compiled = rs.compiled)
    (hrules : rs'.rules = rs.rules) : rs'.Accounts files := by
  apply h.grow (.of_eq hcompiled hrules)
  · intro c hc
    exact .inl (hcompiled ▸ hc)
  · intro c hc
    exact .inl (hrules ▸ hc)

theorem Accounts.finished (h : rs.Accounts files) (hkeyed : files.Keyed) (hf : f ∈ files.values)
    (hcompiled : rs.isCompiled f.path = true) : rs.Finished files f := by
  obtain ⟨c, hc, hsame⟩ := isCompiled_iff.mp hcompiled
  obtain ⟨g, hg, hpath, hfinished⟩ := h.record c hc
  rw [hpath] at hsame
  rwa [hkeyed.eq_of_same hf hg hsame]

/-- A step loses nothing and keeps the account, whether it goes well or not, and brings about what
it is done for if it goes well. -/
inductive Advances {α : Type} (files : ParsedFiles) (rs : Ruleset) (goal : Ruleset → Prop) :
    Outcome α → Prop
  | done {a : α} {rs' : Ruleset} (grows : rs.Grows rs') (accounts : rs'.Accounts files)
      (reached : goal rs') : Advances files rs goal (.ok a, rs')
  | failed {e : GraphError} {rs' : Ruleset} (grows : rs.Grows rs')
      (accounts : rs'.Accounts files) : Advances files rs goal (.error e, rs')

theorem Advances.accounts {α : Type} {goal : Ruleset → Prop} {result : Outcome α}
    (h : Advances files rs goal result) : result.2.Accounts files := by
  cases h with
  | done _ accounts _ => exact accounts
  | failed _ accounts => exact accounts

theorem addRule_advances (h : rs.Accounts files) (hf : f ∈ files.values)
    (himportable : files.Importable f) (rule : Rule) (deps : List Path) :
    Advances files rs (fun rs' => rs'.Registers f.path rule) (rs.addRule f.path rule deps) := by
  rcases addRule_cases rs f.path rule deps with
    ⟨e, made, -, heq⟩ | ⟨t, s, rs', result, hlays, hending, heq⟩
  · rw [heq]
    exact .failed (.of_eq rfl rfl) (h.of_eq rfl rfl)
  · have hnew : (rs.use s).rules.find? (fun r => r.name = rule.name) = none := hlays.absent
    obtain ⟨bus, downstream, threads, hframe⟩ := connect_frame (rs.use s) t.wires
    rw [hlays.connected] at hframe
    cases hframe
    rw [heq]
    have hgrows : rs.Grows { rs.use s with
        bus, downstream, threads, rules := rs.rules ++ t.added } :=
      ⟨List.prefix_refl _, List.prefix_append _ _⟩
    have haccounts : Accounts { rs.use s with
        bus, downstream, threads, rules := rs.rules ++ t.added } files := by
      refine h.grow hgrows (fun c hc => .inl hc) fun c hc => ?_
      rcases List.mem_append.mp hc with hc | hc
      · exact .inl hc
      · obtain ⟨-, rfl⟩ := Strand.mem_added.mp hc
        exact .inr ⟨f, hf, by rw [hlays.rule_eq], himportable⟩
    cases hending with
    | torn => exact .failed hgrows haccounts
    | whole left =>
      refine .done hgrows haccounts ⟨_, _, t.rule.flow, _, s, hlays.made, ?_⟩
      have hadded : t.added = [⟨rule.name, f.path, t.rule.flow⟩] := by
        rw [Strand.added, left, ← hlays.rule_eq]
        rfl
      simp [rule?, hadded, List.find?_append, hnew]

theorem addRules_advances (h : rs.Accounts files) (hf : f ∈ files.values)
    (himportable : files.Importable f) (deps : List Path) (rules : List Rule) :
    Advances files rs (fun rs' => ∀ r ∈ rules, rs'.Registers f.path r)
      (rs.addRules f.path deps rules) := by
  induction rules generalizing rs with
  | nil => exact .done (.refl rs) h (by simp)
  | cons rule rest ih =>
    have hadd := addRule_advances h hf himportable rule deps
    rw [addRules]
    generalize rs.addRule f.path rule deps = outcome at hadd
    cases hadd with
    | failed grows accounts => exact .failed grows accounts
    | @done _ rs₁ grows accounts registers =>
      have hrest := ih accounts
      dsimp only
      generalize rs₁.addRules f.path deps rest = outcome at hrest
      cases hrest with
      | failed grows' accounts' => exact .failed (grows.trans grows') accounts'
      | done grows' accounts' registers' =>
        exact .done (grows.trans grows') accounts'
          (List.forall_mem_cons.mpr ⟨grows'.registers registers, registers'⟩)

theorem compileImports_advances (hkeyed : files.Keyed)
    (hcompile : ∀ g ∈ files.values, ∀ rs : Ruleset, rs.Accounts files →
      Advances files rs (fun rs' => rs'.isCompiled g.path = true) (compile g rs))
    (h : rs.Accounts files) (file : Path) (deps paths : List Path) :
    Advances files rs
      (fun rs' => ∀ path ∈ paths, ∃ g, files.get? path = some g ∧ rs'.isCompiled g.path = true)
      (compileImports compile files file deps paths rs) := by
  induction paths generalizing rs deps with
  | nil => exact .done (.refl rs) h (by simp)
  | cons path rest ih =>
    rw [compileImports]
    cases hget : files.get? path with
    | none => exact .failed (.refl rs) h
    | some g =>
      have hstep := hcompile g (hkeyed.mem_of_get? hget).1 rs h
      dsimp only
      generalize compile g rs = outcome at hstep
      cases hstep with
      | failed grows accounts => exact .failed grows accounts
      | @done transitive rs₁ grows accounts compiled =>
        have hrest := ih accounts (addPaths deps (transitive ++ [path]))
        dsimp only
        generalize compileImports compile files file _ rest rs₁ = outcome at hrest
        cases hrest with
        | failed grows' accounts' => exact .failed (grows.trans grows') accounts'
        | done grows' accounts' compiled' =>
          exact .done (grows.trans grows') accounts'
            (List.forall_mem_cons.mpr ⟨⟨g, hget, grows'.isCompiled compiled⟩, compiled'⟩)

/-- The rules of a file are added behind its imports only, when it is known to be importable. -/
theorem compileBody_advances (hkeyed : files.Keyed)
    (hcompile : ∀ g ∈ files.values, ∀ rs : Ruleset, rs.Accounts files →
      Advances files rs (fun rs' => rs'.isCompiled g.path = true) (compile g rs))
    (h : rs.Accounts files) (hf : f ∈ files.values) :
    Advances files rs (fun rs' => rs'.Finished files f) (compileBody compile files f rs) := by
  have himports := compileImports_advances hkeyed hcompile h f.path [] f.imports
  rw [compileBody]
  generalize compileImports compile files f.path [] f.imports rs = outcome at himports
  cases himports with
  | failed grows accounts => exact .failed grows accounts
  | @done deps rs₁ grows accounts compiled =>
    have hcompiled : ∀ g, files.Imports f g → rs₁.isCompiled g.path = true := by
      rintro g ⟨path, hpath, hget⟩
      obtain ⟨g', hget', hg'⟩ := compiled path hpath
      rwa [Option.some.inj (hget.symm.trans hget')]
    have himportable : files.Importable f := by
      apply ParsedFiles.Importable.behind
      · intro path hpath
        obtain ⟨g, hget, -⟩ := compiled path hpath
        exact ⟨g, hget⟩
      · intro g hg
        have hmem := hkeyed.mem_of_dependsOn (.single hg)
        exact (accounts.finished hkeyed hmem (hcompiled g hg)).importable
    have haccounts :
        (rs₁.note (.compiling f.path f.rules.length deps.length)).Accounts files :=
      accounts.of_eq rfl rfl
    have hrules := addRules_advances haccounts hf himportable deps f.rules
    have hnoted : rs₁.Grows (rs₁.note (.compiling f.path f.rules.length deps.length)) :=
      .of_eq rfl rfl
    dsimp only
    generalize Ruleset.addRules _ f.path deps f.rules = outcome at hrules
    cases hrules with
    | failed grows' accounts' => exact .failed ((grows.trans hnoted).trans grows') accounts'
    | done grows' accounts' registers =>
      exact .done ((grows.trans hnoted).trans grows') accounts'
        ⟨himportable, fun g hg => (hnoted.trans grows').isCompiled (hcompiled g hg), registers⟩

/-- A finished file is put on record. -/
theorem Accounts.recorded (h : rs.Accounts files) (hf : f ∈ files.values)
    (hfinished : rs.Finished files f) (deps : List Path) :
    Advances files rs (fun rs' => rs'.isCompiled f.path = true)
      (.ok deps, { rs.leave f.path with compiled := rs.compiled ++ [(f.path, deps)] }) := by
  have hgrows : rs.Grows { rs.leave f.path with compiled := rs.compiled ++ [(f.path, deps)] } :=
    ⟨List.prefix_append _ _, List.prefix_refl _⟩
  apply Advances.done hgrows
  · apply h.grow hgrows
    · intro c hc
      rcases List.mem_append.mp hc with hc | hc
      · exact .inl hc
      · exact .inr ⟨f, hf, by rw [List.mem_singleton.mp hc], hgrows.finished hfinished⟩
    · intro c hc
      exact .inl hc
  · rw [isCompiled_iff]
    exact ⟨(f.path, deps), by simp, Path.same_refl f.path⟩

theorem compiled_giveUp (rs : Ruleset) (file : Path) (e : GraphError) :
    (rs.giveUp file e).compiled = rs.compiled := by
  unfold giveUp
  split <;> rfl

theorem compileWithin_advances (hkeyed : files.Keyed) (depth : Nat) (hf : f ∈ files.values)
    (h : rs.Accounts files) :
    Advances files rs (fun rs' => rs'.isCompiled f.path = true)
      (compileWithin files depth f rs) := by
  induction depth generalizing f rs with
  | zero => exact .failed (.refl rs) h
  | succ depth ih =>
    rw [compileWithin]
    cases hknown : rs.dependencies? f.path with
    | some deps => exact .done (.refl rs) h (by simp [isCompiled, hknown])
    | none =>
      dsimp only
      split
      · exact .failed (.refl rs) h
      · have hentered : rs.Grows (rs.enter f.path) := .of_eq rfl rfl
        have haccounts : (rs.enter f.path).Accounts files := h.of_eq rfl rfl
        have hbody : Advances files (rs.enter f.path) (fun rs' => rs'.Finished files f)
            (compileBody (compileWithin files depth) files f (rs.enter f.path)) :=
          compileBody_advances hkeyed (fun g hg rs h => ih hg h) haccounts hf
        generalize compileBody (compileWithin files depth) files f (rs.enter f.path) = outcome
          at hbody
        cases hbody with
        | @failed e rs₁ grows accounts =>
          have hcompiled := compiled_giveUp rs₁ f.path e
          have hrules := (sameGraph_giveUp rs₁ f.path e).rules
          exact .failed ((hentered.trans grows).trans (.of_eq hcompiled hrules))
            (accounts.of_eq hcompiled hrules)
        | @done deps rs₁ grows accounts finished =>
          cases accounts.recorded hf finished deps with
          | done grows' accounts' compiled =>
            exact .done ((hentered.trans grows).trans grows') accounts' compiled

theorem accounts_compileEach (hkeyed : files.Keyed) {order : List RuleFile}
    (horder : ∀ f ∈ order, f ∈ files.values) (h : rs.Accounts files) :
    (rs.compileEach files order).2.Accounts files := by
  induction order generalizing rs with
  | nil => exact h
  | cons f rest ih =>
    have hstep := compileWithin_advances hkeyed (files.length + 2) (horder f List.mem_cons_self) h
    rw [compileEach, compile]
    generalize compileWithin files (files.length + 2) f rs = outcome at hstep
    cases hstep with
    | failed _ accounts => exact accounts
    | done _ accounts _ => exact ih (fun g hg => horder g (List.mem_cons_of_mem _ hg)) accounts

/-! ### Files in progress -/

theorem begun_cons (hkeyed : files.Keyed) (hf : f ∈ files.values) (h : files.Begun inProgress)
    (hother : hasPath inProgress f.path = false) : files.Begun (f.path :: inProgress) := by
  obtain ⟨stack, hmem, hnodup, rfl⟩ := h
  have hnew : f ∉ stack := by
    rwa [Bool.eq_false_iff, Ne, hkeyed.hasPath_map_path_iff hmem hf] at hother
  exact ⟨f :: stack, List.forall_mem_cons.mpr ⟨hf, hmem⟩, List.nodup_cons.mpr ⟨hnew, hnodup⟩, rfl⟩

/-- The step does not end but in a panic. -/
def Panicked {α : Type} (result : Outcome α) : Prop :=
  ∃ e, result.1 = .error e ∧ e.isPanic = true

/-- Behind a step the files are in progress that were, and behind a panic perhaps others. -/
def Resumes {α : Type} (files : ParsedFiles) (inProgress : List Path) (result : Outcome α) : Prop :=
  ∃ more, result.2.inProgress = more ++ inProgress ∧ (more = [] ∨ Panicked result) ∧
    (files.Begun inProgress → files.Begun (more ++ inProgress))

section Resumes

variable {α β : Type} {e : GraphError}

theorem resumes_of_eq {result : Outcome α} (h : result.2.inProgress = inProgress) :
    Resumes files inProgress result := ⟨[], h, .inl rfl, id⟩

theorem Resumes.of_ok {a : α} (h : Resumes files inProgress ((.ok a, rs) : Outcome α)) :
    rs.inProgress = inProgress := by
  obtain ⟨more, hprogress, rfl | ⟨e, herror, -⟩, -⟩ := h
  · exact hprogress
  · cases herror

theorem Resumes.of_error (h : Resumes files inProgress ((.error e, rs) : Outcome α)) :
    Resumes files inProgress ((.error e, rs) : Outcome β) := by
  obtain ⟨more, hprogress, hmore, hbegun⟩ := h
  refine ⟨more, hprogress, hmore.imp_right ?_, hbegun⟩
  rintro ⟨e', herror, hpanic⟩
  cases herror
  exact ⟨e, rfl, hpanic⟩

end Resumes

theorem resumes_compileImports (hkeyed : files.Keyed)
    (hcompile : ∀ g ∈ files.values, ∀ rs : Ruleset, Resumes files rs.inProgress (compile g rs))
    (file : Path) (deps paths : List Path) (rs : Ruleset) :
    Resumes files rs.inProgress (compileImports compile files file deps paths rs) := by
  induction paths generalizing rs deps with
  | nil => exact resumes_of_eq rfl
  | cons path rest ih =>
    rw [compileImports]
    cases hget : files.get? path with
    | none => exact resumes_of_eq rfl
    | some g =>
      have hstep := hcompile g (hkeyed.mem_of_get? hget).1 rs
      dsimp only
      generalize compile g rs = outcome at hstep
      obtain ⟨e | transitive, rs₁⟩ := outcome
      · exact hstep.of_error
      · exact hstep.of_ok ▸ ih (addPaths deps (transitive ++ [path])) rs₁

theorem resumes_compileBody (hkeyed : files.Keyed)
    (hcompile : ∀ g ∈ files.values, ∀ rs : Ruleset, Resumes files rs.inProgress (compile g rs))
    (f : RuleFile) (rs : Ruleset) :
    Resumes files rs.inProgress (compileBody compile files f rs) := by
  have himports := resumes_compileImports hkeyed hcompile f.path [] f.imports rs
  rw [compileBody]
  generalize compileImports compile files f.path [] f.imports rs = outcome at himports
  obtain ⟨e | deps, rs₁⟩ := outcome
  · exact himports.of_error
  · have hrules := (addRules_frame (rs₁.note (.compiling f.path f.rules.length deps.length)) f.path
      deps f.rules).2
    dsimp only
    generalize Ruleset.addRules _ f.path deps f.rules = outcome at hrules
    have hprogress := hrules.trans himports.of_ok
    obtain ⟨_ | _, rs₂⟩ := outcome <;> exact resumes_of_eq hprogress

/-- Compiling a file leaves the files in progress as they were, whether it goes well or not. What
panics leaves the files there that it was about to compile. -/
theorem resumes_compileWithin (hkeyed : files.Keyed) (depth : Nat) (hf : f ∈ files.values)
    (rs : Ruleset) : Resumes files rs.inProgress (compileWithin files depth f rs) := by
  induction depth generalizing f rs with
  | zero => exact resumes_of_eq rfl
  | succ depth ih =>
    rw [compileWithin]
    split
    · exact resumes_of_eq rfl
    · split
      · exact resumes_of_eq rfl
      · rename_i hentered
        have hother : hasPath rs.inProgress f.path = false := Bool.eq_false_iff.mpr hentered
        have hbody : Resumes files (f.path :: rs.inProgress)
            (compileBody (compileWithin files depth) files f (rs.enter f.path)) :=
          resumes_compileBody hkeyed (fun g hg rs => ih hg rs) f (rs.enter f.path)
        generalize compileBody (compileWithin files depth) files f (rs.enter f.path) = outcome
          at hbody
        obtain ⟨e | deps, rs₁⟩ := outcome
        · obtain ⟨more, hprogress, hmore, hbegun⟩ := hbody
          have hprogress : rs₁.inProgress = more ++ f.path :: rs.inProgress := hprogress
          dsimp only
          cases hpanic : e.isPanic with
          | true =>
            refine ⟨more ++ [f.path], ?_, .inr ⟨e, rfl, hpanic⟩, fun h => ?_⟩
            · rw [giveUp, if_pos hpanic, hprogress, List.append_assoc]
              rfl
            · rw [List.append_assoc]
              exact hbegun (begun_cons hkeyed hf h hother)
          | false =>
            obtain rfl : more = [] := by
              refine hmore.resolve_right ?_
              rintro ⟨e', herror, hpanic'⟩
              cases herror
              rw [hpanic] at hpanic'
              cases hpanic'
            apply resumes_of_eq
            rw [giveUp, if_neg (by simp [hpanic])]
            exact inProgress_leave hprogress hother
        · exact resumes_of_eq (inProgress_leave hbody.of_ok hother)

section Congruence

variable {compile' : RuleFile → Ruleset → Outcome (List Path)}
  (hkeyed : files.Keyed)
  (hresumes : ∀ g ∈ files.values, ∀ rs : Ruleset, Resumes files rs.inProgress (compile' g rs))
  (hcompile : ∀ g, files.Imports f g → ∀ rs : Ruleset, rs.inProgress = inProgress →
    compile g rs = compile' g rs)
include hkeyed hresumes hcompile

end Congruence

/-- Calls that compile a file of a collection, or all of them, whatever threads there are. -/
inductive Call.Over (files : ParsedFiles) : Call → Prop
  | compile {f : RuleFile} (mem : f ∈ files.values) : Over files (.compile files f)
  | compileAll : Over files (.compileAll files)
  | threads (given : Threads) : Over files (.threads given)

theorem Call.Over.accounts {c : Call} (hc : c.Over files) (hkeyed : files.Keyed)
    (h : rs.Accounts files) : (rs.call c).Accounts files := by
  cases hc with
  | compile mem => exact (compileWithin_advances hkeyed _ mem h).accounts
  | compileAll => exact accounts_compileEach hkeyed (fun _ => id) h
  | threads given => exact h.of_eq rfl rfl

end Ruleset
end RuleGraph
