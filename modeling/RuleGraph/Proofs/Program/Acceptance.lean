import RuleGraph.Proofs.Program.Files

/-!
# Which programs are accepted

Compiling a file first compiles what it imports, so that a file finds all files that it depends on
compiled before it. From one file to the next, either all goes well and the files compiled so far
are well-formed, or the program cannot be compiled. So all files are compiled just when the program
is well-formed and threads can be started for it, in whatever order they are taken.
-/
namespace RuleGraph

namespace ParsedFiles

/-- Files that were compiled, with the record of the files that each of them depends on. -/
structure Compiled (files : ParsedFiles) (registry : Registry) (config : Config)
    (record : List (Path × List Path)) (done : List RuleFile) : Prop where
  record : List.Forall₂ (fun c f => c.1 = f.path ∧ files.Covers f c.2) record done
  mem : ∀ f ∈ done, f ∈ files.values
  nodup : done.Nodup
  closed : ∀ f ∈ done, ∀ g, files.Imports f g → g ∈ done
  wellFormed : ∀ f ∈ done, files.FileWellFormed registry config f

/-- The paths in a list are those of files that some imports bring in. -/
def Brings (files : ParsedFiles) (imports deps : List Path) : Prop :=
  ∀ p, Ruleset.hasPath deps p = true ↔ ∃ path ∈ imports, ∃ g, files.get? path = some g ∧
    ∃ g', Relation.ReflTransGen files.Imports g g' ∧ p.same g'.path = true

variable {files : ParsedFiles} {registry : Registry} {config : Config}
  {record : List (Path × List Path)} {done : List RuleFile} {f g : RuleFile} {deps : List Path}

theorem Compiled.nodup_concat (h : files.Compiled registry config record done) (hnew : f ∉ done) :
    (done ++ [f]).Nodup := by
  rw [List.nodup_append]
  refine ⟨h.nodup, by simp, fun g hg g' hg' heq => hnew ?_⟩
  rw [← List.mem_singleton.mp hg', ← heq]
  exact hg

theorem Compiled.mem_concat (h : files.Compiled registry config record done)
    (hf : f ∈ files.values) : ∀ g ∈ done ++ [f], g ∈ files.values := by
  intro g hg
  rcases List.mem_append.mp hg with hg | hg
  · exact h.mem g hg
  · exact List.mem_singleton.mp hg ▸ hf

theorem Compiled.concat (h : files.Compiled registry config record done) (hf : f ∈ files.values)
    (hnew : f ∉ done) (himports : ∀ path ∈ f.imports, ∃ g ∈ done, files.get? path = some g)
    (hwellFormed : files.FileWellFormed registry config f) (hcovers : files.Covers f deps) :
    files.Compiled registry config (record ++ [(f.path, deps)]) (done ++ [f]) := by
  refine ⟨List.rel_append h.record (.cons ⟨rfl, hcovers⟩ .nil), h.mem_concat hf,
    h.nodup_concat hnew, fun g hg g' hg' => List.mem_append_left _ ?_, fun g hg => ?_⟩
  · rcases List.mem_append.mp hg with hg | hg
    · exact h.closed g hg g' hg'
    · exact mem_of_imports himports (List.mem_singleton.mp hg ▸ hg')
  · rcases List.mem_append.mp hg with hg | hg
    · exact h.wellFormed g hg
    · exact List.mem_singleton.mp hg ▸ hwellFormed

/-- With one more file, there are no more nodes than in all files. -/
theorem Compiled.countNodes_le (h : files.Compiled registry config record done)
    (hf : f ∈ files.values) (hnew : f ∉ done) :
    countNodes ((done.flatMap RuleFile.added).map Prod.snd ++ f.rules) ≤ files.nodeCount := by
  have hrules : (done.flatMap RuleFile.added).map Prod.snd ++ f.rules =
      (done ++ [f]).flatMap RuleFile.rules := by
    rw [map_snd_flatMap_added]
    simp [List.flatMap_append]
  rw [hrules]
  exact ParsedFiles.countNodes_le (h.nodup_concat hnew) (h.mem_concat hf)

theorem Compiled.mem_of_dependsOn (h : files.Compiled registry config record done)
    (himports : ∀ g, files.Imports f g → g ∈ done) (hdepends : files.DependsOn f g) :
    g ∈ done := by
  induction hdepends with
  | single hg => exact himports _ hg
  | tail _ hg ih => exact h.closed _ ih _ hg

theorem brings_nil : files.Brings [] [] := fun p => by simp [Ruleset.hasPath]

/-- One more import brings in its file and what this depends on. -/
theorem Brings.concat (hkeyed : files.Keyed) {imports : List Path} (h : files.Brings imports deps)
    {path : Path} (hget : files.get? path = some g) {transitive : List Path}
    (hcovers : files.Covers g transitive) :
    files.Brings (imports ++ [path]) (Ruleset.addPaths deps (transitive ++ [path])) := by
  intro p
  have hsame : p.same path = true ↔ p.same g.path = true := by
    have hpath := (hkeyed.mem_of_get? hget).2
    exact ⟨fun h => Path.same_trans h hpath, fun h => Path.same_trans h (Path.same_comm ▸ hpath)⟩
  have hbrought : Ruleset.hasPath (transitive ++ [path]) p = true ↔
      ∃ g', Relation.ReflTransGen files.Imports g g' ∧ p.same g'.path = true := by
    have hconcat : Ruleset.hasPath (transitive ++ [path]) p = true ↔
        Ruleset.hasPath transitive p = true ∨ p.same path = true := by simp [Ruleset.hasPath]
    rw [hconcat, hcovers p, hsame]
    constructor
    · rintro (⟨g', hdepends, hp⟩ | hp)
      · exact ⟨g', hdepends.to_reflTransGen, hp⟩
      · exact ⟨g, .refl, hp⟩
    · rintro ⟨g', hreaches, hp⟩
      rcases Relation.reflTransGen_iff_eq_or_transGen.mp hreaches with rfl | hdepends
      · exact .inr hp
      · exact .inl ⟨g', hdepends, hp⟩
  rw [Ruleset.hasPath_addPaths, h p, hbrought]
  constructor
  · rintro (⟨q, hq, hrest⟩ | hrest)
    · exact ⟨q, List.mem_append_left _ hq, hrest⟩
    · exact ⟨path, by simp, g, hget, hrest⟩
  · rintro ⟨q, hq, g', hget', hrest⟩
    rcases List.mem_append.mp hq with hq | hq
    · exact .inl ⟨q, hq, g', hget', hrest⟩
    · obtain rfl := List.mem_singleton.mp hq
      obtain rfl := Option.some.inj (hget.symm.trans hget')
      exact .inr hrest

theorem Brings.covers (h : files.Brings f.imports deps) : files.Covers f deps := by
  intro p
  rw [h p]
  constructor
  · rintro ⟨path, hpath, g, hget, g', hreaches, hp⟩
    exact ⟨g', Relation.TransGen.head'_iff.mpr ⟨g, ⟨path, hpath, hget⟩, hreaches⟩, hp⟩
  · rintro ⟨g', hdepends, hp⟩
    obtain ⟨g, ⟨path, hpath, hget⟩, hreaches⟩ := Relation.TransGen.head'_iff.mp hdepends
    exact ⟨path, hpath, g, hget, g', hreaches, hp⟩

end ParsedFiles

namespace Ruleset

/-- A ruleset that has compiled some files of a program, and none that is in progress. -/
structure HasCompiled (rs : Ruleset) (files : ParsedFiles) (registry : Registry) (config : Config)
    (given : Threads) (done : List RuleFile) : Prop where
  holds : rs.Holds registry config given (done.flatMap RuleFile.added)
  files : files.Compiled registry config rs.compiled done
  waiting : ∀ f ∈ done, hasPath rs.inProgress f.path = false

/-- What compiling a file may come to: the file is compiled, perhaps with others, and the state of
files in progress is as it was; or there is an error, and the program cannot be compiled. -/
def CompilesOrFails (files : ParsedFiles) (registry : Registry) (config : Config) (given : Threads)
    (inProgress : List Path) (done : List RuleFile) (f : RuleFile) (result : Outcome (List Path)) :
    Prop :=
  (∃ deps rs' more, result = (.ok deps, rs') ∧
    rs'.HasCompiled files registry config given (done ++ more) ∧ rs'.inProgress = inProgress ∧
    f ∈ done ++ more ∧ files.Covers f deps) ∨
  (∃ e rs', result = (.error e, rs')) ∧ ¬ files.Compilable registry config given

variable {rs : Ruleset} {files : ParsedFiles} {registry : Registry} {config : Config}
  {given : Threads} {done : List RuleFile} {f : RuleFile} {inProgress deps : List Path}
  {compile : RuleFile → Ruleset → Outcome (List Path)}

theorem compileImports_cases (hkeyed : files.Keyed) (hf : f ∈ files.values)
    (hcompile : ∀ g, files.Imports f g → ∀ rs done,
      rs.HasCompiled files registry config given done → rs.inProgress = inProgress →
      CompilesOrFails files registry config given inProgress done g (compile g rs))
    {imports paths : List Path} (hpaths : ∀ path ∈ paths, path ∈ f.imports)
    (h : rs.HasCompiled files registry config given done) (hprogress : rs.inProgress = inProgress)
    (hbrings : files.Brings imports deps) :
    (∃ deps' rs' more, compileImports compile files f.path deps paths rs = (.ok deps', rs') ∧
      rs'.HasCompiled files registry config given (done ++ more) ∧ rs'.inProgress = inProgress ∧
      (∀ path ∈ paths, ∃ g ∈ done ++ more, files.get? path = some g) ∧
      files.Brings (imports ++ paths) deps') ∨
    (∃ e rs', compileImports compile files f.path deps paths rs = (.error e, rs')) ∧
      ¬ files.Compilable registry config given := by
  induction paths generalizing rs done imports deps with
  | nil =>
    exact .inl ⟨deps, rs, [], rfl, by simpa using h, hprogress, by simp, by simpa using hbrings⟩
  | cons path paths ih =>
    have hpath := hpaths path List.mem_cons_self
    rw [compileImports]
    cases hget : files.get? path with
    | none =>
      refine .inr ⟨⟨_, _, rfl⟩, fun hcompilable => ?_⟩
      obtain ⟨g, hg⟩ := (hcompilable.wellFormed.each f hf).imports path hpath
      simp [hget] at hg
    | some g =>
      rcases hcompile g ⟨path, hpath, hget⟩ rs done h hprogress with
        ⟨transitive, rs₁, more, hok, hcompiled, hprogress₁, hmem, hcovers⟩ |
          ⟨⟨e, rs', herror⟩, hill⟩
      · simp only [hok]
        rcases ih (fun path hpath => hpaths path (List.mem_cons_of_mem _ hpath)) hcompiled
            hprogress₁ (hbrings.concat hkeyed hget hcovers) with
          ⟨deps', rs', more', hok', hcompiled', hprogress', hmem', hbrings'⟩ | hfails
        · refine .inl ⟨deps', rs', more ++ more', hok', by simpa using hcompiled', hprogress', ?_,
            by simpa using hbrings'⟩
          intro path' hpath'
          rcases List.mem_cons.mp hpath' with rfl | hpath'
          · exact ⟨g, by simpa using List.mem_append_left more' hmem, hget⟩
          · simpa using hmem' path' hpath'
        · exact .inr hfails
      · exact .inr ⟨⟨e, rs', by simp only [herror]⟩, hill⟩

/-- The rules of a file are compiled behind its imports. -/
theorem compileBody_cases (hkeyed : files.Keyed) (hroom : files.nodeCount ≤ NodeId.room)
    (hf : f ∈ files.values)
    (hcompile : ∀ g, files.Imports f g → ∀ rs done,
      rs.HasCompiled files registry config given done → rs.inProgress = inProgress →
      CompilesOrFails files registry config given inProgress done g (compile g rs))
    (h : rs.HasCompiled files registry config given done) (hprogress : rs.inProgress = inProgress)
    (hentered : hasPath inProgress f.path = true) :
    (∃ deps rs' more, compileBody compile files f rs = (.ok deps, rs') ∧
      rs'.Holds registry config given ((done ++ more ++ [f]).flatMap RuleFile.added) ∧
      files.Compiled registry config (rs'.compiled ++ [(f.path, deps)]) (done ++ more ++ [f]) ∧
      rs'.inProgress = inProgress ∧
      (∀ g ∈ done ++ more, hasPath inProgress g.path = false) ∧ files.Covers f deps) ∨
    (∃ e rs', compileBody compile files f rs = (.error e, rs')) ∧
      ¬ files.Compilable registry config given := by
  rw [compileBody]
  rcases compileImports_cases hkeyed hf hcompile (fun _ hpath => hpath) h hprogress
      ParsedFiles.brings_nil with
    ⟨deps, rs₁, more, hok, hcompiled, hprogress₁, himports, hbrings⟩ | ⟨⟨e, rs', herror⟩, hill⟩
  · simp only [hok]
    have hcovers : files.Covers f deps := ParsedFiles.Brings.covers (by simpa using hbrings)
    have hwaiting : ∀ g ∈ done ++ more, hasPath inProgress g.path = false :=
      fun g hg => hprogress₁ ▸ hcompiled.waiting g hg
    have hnew : f ∉ done ++ more := fun hmem => by simp [hwaiting f hmem] at hentered
    have hnoted := hcompiled.holds.congr
      (sameGraph_note rs₁ f.path f.rules.length deps.length) rfl
    have hframe := addRules_frame (rs₁.note (.compiling f.path f.rules.length deps.length)) f.path
      deps f.rules
    rcases hnoted.addRules f.path deps ((hcompiled.files.countNodes_le hf hnew).trans hroom) with
      ⟨rs', hadd, hadmissible, hholds⟩ | ⟨⟨e, rs', hadd⟩, before, rule, after, hsplit, hrefused⟩
    · have hwellFormed : files.FileWellFormed registry config f :=
        .of_admissible hkeyed hcompiled.files.mem hf hnew hcompiled.files.closed himports hcovers
          hadmissible
      rw [hadd] at hframe
      refine .inl ⟨deps, rs', more, by simp only [hadd], ?_, ?_, hframe.2.trans hprogress₁,
        hwaiting, hcovers⟩
      · rw [List.flatMap_append]
        simpa [RuleFile.added] using hholds
      · rw [hframe.1]
        exact hcompiled.files.concat hf hnew himports hwellFormed hcovers
    · -- a rule was refused that is admissible if the program can be compiled
      refine .inr ⟨⟨e, rs', by simp only [hadd]⟩, fun hcompilable => hrefused ?_⟩
      have hbehind (g : RuleFile) (hg : files.DependsOn f g) : g ∈ done ++ more :=
        hcompiled.files.mem_of_dependsOn (fun g => ParsedFiles.mem_of_imports himports) hg
      exact hcompilable.admissible hkeyed hcompiled.files.mem hf hnew hbehind hcovers hsplit
  · exact .inr ⟨⟨e, rs', by simp only [herror]⟩, hill⟩

/-- A file on record was compiled, and the record has all that it depends on. -/
theorem HasCompiled.of_known (h : rs.HasCompiled files registry config given done)
    (hkeyed : files.Keyed) (hf : f ∈ files.values) (hknown : rs.dependencies? f.path = some deps) :
    f ∈ done ∧ files.Covers f deps := by
  rw [dependencies?, Option.map_eq_some_iff] at hknown
  obtain ⟨c, hfind, rfl⟩ := hknown
  obtain ⟨g, hg, hpath, hcovers⟩ :=
    exists_of_forall₂_left h.files.record (List.mem_of_find?_eq_some hfind)
  have hsame := List.find?_some hfind
  simp only [hpath] at hsame
  obtain rfl := hkeyed.eq_of_same hf (h.files.mem g hg) hsame
  exact ⟨hg, hcovers⟩

theorem HasCompiled.not_mem_of_unknown (h : rs.HasCompiled files registry config given done)
    (hunknown : rs.dependencies? f.path = none) : f ∉ done := by
  intro hf
  obtain ⟨c, hc, hpath, -⟩ := exists_of_forall₂_right h.files.record hf
  rw [dependencies?, Option.map_eq_none_iff, List.find?_eq_none] at hunknown
  exact hunknown c hc (hpath ▸ Path.same_refl c.1)

/-- Files that are compiled are not in progress when another one is begun. -/
theorem waiting_enter (hkeyed : files.Keyed) (hdone : ∀ g ∈ done, g ∈ files.values)
    (hf : f ∈ files.values) (hnew : f ∉ done)
    (hwaiting : ∀ g ∈ done, hasPath inProgress g.path = false) :
    ∀ g ∈ done, hasPath (f.path :: inProgress) g.path = false := by
  intro g hg
  have hother : g.path.same f.path = false := by
    rw [Bool.eq_false_iff]
    intro hsame
    exact hnew (hkeyed.eq_of_same (hdone g hg) hf hsame ▸ hg)
  exact Bool.or_eq_false_iff.mpr ⟨hother, hwaiting g hg⟩

/-- They are not when it is finished, and neither is this one. -/
theorem waiting_leave (hwaiting : ∀ g ∈ done, hasPath (f.path :: inProgress) g.path = false)
    (hother : hasPath inProgress f.path = false) :
    ∀ g ∈ done ++ [f], hasPath inProgress g.path = false := by
  intro g hg
  rcases List.mem_append.mp hg with hg | hg
  · exact (Bool.or_eq_false_iff.mp (hwaiting g hg)).2
  · exact List.mem_singleton.mp hg ▸ hother

theorem HasCompiled.enter (h : rs.HasCompiled files registry config given done)
    (hkeyed : files.Keyed) (hf : f ∈ files.values) (hnew : f ∉ done) :
    (rs.enter f.path).HasCompiled files registry config given done :=
  ⟨h.holds.congr ⟨rfl, rfl, rfl, rfl, rfl, rfl, rfl⟩ rfl, h.files,
    waiting_enter hkeyed h.files.mem hf hnew h.waiting⟩

theorem inProgress_leave {rs' : Ruleset} (hprogress : rs'.inProgress = f.path :: inProgress)
    (hother : hasPath inProgress f.path = false) : (rs'.leave f.path).inProgress = inProgress := by
  rw [leave, hprogress, List.filter_cons_of_neg (by simp [Path.same_refl]), List.filter_eq_self]
  intro p hp
  simpa using List.any_eq_false.mp hother p hp

/-- A file is on record once its rules were added. -/
theorem hasCompiled_leave {rs' : Ruleset}
    (hholds : rs'.Holds registry config given ((done ++ [f]).flatMap RuleFile.added))
    (hcompiled : files.Compiled registry config (rs'.compiled ++ [(f.path, deps)]) (done ++ [f]))
    (hprogress : rs'.inProgress = f.path :: inProgress)
    (hwaiting : ∀ g ∈ done, hasPath (f.path :: inProgress) g.path = false)
    (hother : hasPath inProgress f.path = false) :
    HasCompiled { rs'.leave f.path with compiled := rs'.compiled ++ [(f.path, deps)] } files
      registry config given (done ++ [f]) := by
  refine ⟨hholds.congr ⟨rfl, rfl, rfl, rfl, rfl, rfl, rfl⟩ rfl, hcompiled, fun g hg => ?_⟩
  refine (congrArg (hasPath · g.path) (inProgress_leave hprogress hother)).trans ?_
  exact waiting_leave hwaiting hother g hg

/-- A file is compiled behind all that it depends on. Files in progress lead to the file and are
different, so their number never uses up the bound on a chain of imports. -/
theorem compileWithin_cases (hkeyed : files.Keyed) (hroom : files.nodeCount ≤ NodeId.room)
    (depth : Nat) (stack : List RuleFile) (hf : f ∈ files.values)
    (h : rs.HasCompiled files registry config given done)
    (hprogress : rs.inProgress = stack.map RuleFile.path)
    (hstack : files.Pending stack f) (hdepth : files.length < depth + stack.length) :
    CompilesOrFails files registry config given rs.inProgress done f
      (compileWithin files depth f rs) := by
  induction depth generalizing f rs done stack with
  | zero =>
    have hle := hstack.length_le
    omega
  | succ depth ih =>
    rw [compileWithin]
    cases hknown : rs.dependencies? f.path with
    | some deps =>
      obtain ⟨hmem, hcovers⟩ := h.of_known hkeyed hf hknown
      exact .inl ⟨deps, rs, [], rfl, by simpa using h, rfl, by simpa using hmem, hcovers⟩
    | none =>
      have hnew := h.not_mem_of_unknown hknown
      have hentered_iff : hasPath rs.inProgress f.path = true ↔ f ∈ stack :=
        hprogress ▸ hkeyed.hasPath_map_path_iff hstack.mem hf
      simp only
      split
      · rename_i hentered
        -- the file is in progress, so it leads back to itself
        refine .inr ⟨⟨_, _, rfl⟩, fun hcompilable => ?_⟩
        exact (hcompilable.wellFormed.each f hf).importCycleFree
          (hstack.leads f (hentered_iff.mp hentered))
      · rename_i hentered
        have hother : hasPath rs.inProgress f.path = false := Bool.eq_false_iff.mpr hentered
        have hfstack : f ∉ stack := fun hmem => hentered (hentered_iff.mpr hmem)
        have hcompile : ∀ g, files.Imports f g → ∀ rs' done',
            rs'.HasCompiled files registry config given done' →
            rs'.inProgress = f.path :: rs.inProgress →
            CompilesOrFails files registry config given (f.path :: rs.inProgress) done' g
              (compileWithin files depth g rs') := by
          intro g hg rs' done' h' hprogress'
          rw [← hprogress']
          exact ih (f :: stack) (hkeyed.mem_of_dependsOn (.single hg)) h'
            (by rw [hprogress', hprogress, List.map_cons]) (hstack.push hf hfstack hg)
            (by rw [List.length_cons]; omega)
        rcases compileBody_cases hkeyed hroom hf hcompile (h.enter hkeyed hf hnew) rfl
            (hasPath_iff.mpr ⟨f.path, List.mem_cons_self, Path.same_refl _⟩) with
          ⟨deps, rs', more, hok, hholds, hcompiled, hprogress', hwaiting, hcovers⟩ |
            ⟨⟨e, rs', herror⟩, hill⟩
        · simp only [hok]
          have hleft := hasCompiled_leave hholds hcompiled hprogress' hwaiting hother
          rw [List.append_assoc] at hleft
          exact .inl ⟨deps, _, more ++ [f], rfl, hleft, inProgress_leave hprogress' hother, by simp,
            hcovers⟩
        · exact .inr ⟨⟨e, rs'.giveUp f.path e, by simp only [herror]⟩, hill⟩

theorem compileEach_cases (hkeyed : files.Keyed) (hroom : files.nodeCount ≤ NodeId.room)
    {order : List RuleFile} (horder : ∀ f ∈ order, f ∈ files.values)
    (h : rs.HasCompiled files registry config given done) (hprogress : rs.inProgress = []) :
    (∃ rs' more, rs.compileEach files order = (.ok (), rs') ∧
      rs'.HasCompiled files registry config given (done ++ more) ∧ ∀ f ∈ order, f ∈ done ++ more) ∨
    (∃ e rs', rs.compileEach files order = (.error e, rs')) ∧
      ¬ files.Compilable registry config given := by
  induction order generalizing rs done with
  | nil => exact .inl ⟨rs, [], rfl, by simpa using h, by simp⟩
  | cons f order ih =>
    rw [compileEach, compile]
    rcases compileWithin_cases hkeyed hroom (files.length + 2) [] (horder f List.mem_cons_self) h
        hprogress (ParsedFiles.pending_nil files f) (by simp) with
      ⟨deps, rs₁, more, hok, hcompiled, hprogress₁, hmem, -⟩ | ⟨⟨e, rs', herror⟩, hill⟩
    · simp only [hok]
      rcases ih (fun g hg => horder g (List.mem_cons_of_mem _ hg)) hcompiled
          (hprogress₁.trans hprogress) with
        ⟨rs', more', hok', hcompiled', hmem'⟩ | hfails
      · refine .inl ⟨rs', more ++ more', hok', by simpa using hcompiled', fun g hg => ?_⟩
        rcases List.mem_cons.mp hg with rfl | hg
        · simpa using List.mem_append_left more' hmem
        · simpa using hmem' g hg
      · exact .inr hfails
    · exact .inr ⟨⟨e, rs', by simp only [herror]⟩, hill⟩

theorem hasCompiled_new (files : ParsedFiles) (registry : Registry) (config : Config)
    (given : Threads) :
    (newWith registry config given).HasCompiled files registry config given [] :=
  ⟨holds_new registry config given, ⟨.nil, by simp, List.nodup_nil, by simp, by simp⟩, by simp⟩

theorem HasCompiled.perm_rules (h : rs.HasCompiled files registry config given done)
    (hkeyed : files.Keyed) (hall : ∀ f ∈ files.values, f ∈ done) :
    ((done.flatMap RuleFile.added).map Prod.snd).Perm files.rules := by
  have hperm : done.Perm files.values := by
    rw [List.perm_ext_iff_of_nodup h.files.nodup hkeyed.nodup_values]
    exact fun f => ⟨h.files.mem f, hall f⟩
  rw [ParsedFiles.map_snd_flatMap_added]
  exact hperm.flatMap_right RuleFile.rules

/-- A ruleset that has compiled all files has found nothing wrong with the program. -/
theorem HasCompiled.compilable (h : rs.HasCompiled files registry config given done)
    (hkeyed : files.Keyed) (hall : ∀ f ∈ files.values, f ∈ done) :
    files.Compilable registry config given := by
  have hrules := h.perm_rules hkeyed hall
  have hsub : ∀ r ∈ files.rules, r ∈ (done.flatMap RuleFile.added).map Prod.snd :=
    fun r hr => hrules.mem_iff.mpr hr
  refine ⟨⟨fun f hf => h.files.wellFormed f (hall f hf), ?_, h.holds.cycleFree.mono hsub⟩,
    h.holds.dispatchable.mono hsub⟩
  exact (hrules.map Rule.name).nodup_iff.mp h.holds.names

/-- Once all files were asked for, in whatever order, they are compiled just when the program can be
compiled. -/
theorem compileEach_eq_ok_iff (hkeyed : files.Keyed) (hroom : files.nodeCount ≤ NodeId.room)
    {order : List RuleFile} (horder : ∀ f, f ∈ order ↔ f ∈ files.values) :
    ((newWith registry config given).compileEach files order).1 = .ok () ↔
      files.Compilable registry config given := by
  rcases compileEach_cases hkeyed hroom (fun f hf => (horder f).mp hf)
      (hasCompiled_new files registry config given) rfl with
    ⟨rs', done, hok, hcompiled, hall⟩ | ⟨⟨e, rs', herror⟩, hill⟩
  · have hcompilable := hcompiled.compilable hkeyed fun f hf => hall f ((horder f).mpr hf)
    simp [hok, hcompilable]
  · simp [herror, hill]

/-- A rule is called in files that depend on its file, and there alone. -/
theorem calls_within_dependencies (hkeyed : files.Keyed) (hroom : files.nodeCount ≤ NodeId.room)
    {order : List RuleFile} (horder : ∀ f ∈ order, f ∈ files.values)
    (hok : ((newWith registry config given).compileEach files order).1 = .ok ()) {g : RuleFile}
    (hf : f ∈ order) (hg : g ∈ order) {r callee : Rule} (hr : r ∈ f.rules)
    (hcallee : callee ∈ g.rules) (hcall : .call callee.name ∈ r.body.chain) :
    f = g ∨ files.DependsOn f g := by
  have hnew := hasCompiled_new files registry config given
  rcases compileEach_cases hkeyed hroom horder hnew rfl with
    ⟨rs', done, -, hcompiled, hall⟩ | ⟨⟨e, rs', herror⟩, -⟩
  · rw [List.nil_append] at hcompiled hall
    obtain ⟨before, after, hsplit⟩ := List.append_of_mem hr
    obtain ⟨callee', hname, -, hwhere⟩ :=
      (hcompiled.files.wellFormed f (hall f hf)).calls before r after hsplit _ hcall
    -- one name stands for one rule, so the rule found for the call is the given one
    have hsame {f' : RuleFile} (hf' : f' ∈ done) (hcallee' : callee' ∈ f'.rules) : f' = g := by
      have hmem : (f'.path, callee') ∈ done.flatMap RuleFile.added :=
        ParsedFiles.mem_flatMap_added.mpr ⟨f', hf', rfl, hcallee'⟩
      have hmem' : (g.path, callee) ∈ done.flatMap RuleFile.added :=
        ParsedFiles.mem_flatMap_added.mpr ⟨g, hall g hg, rfl, hcallee⟩
      have hpath : f'.path = g.path :=
        congrArg Prod.fst (hcompiled.holds.eq_of_name hmem hmem' hname)
      exact hkeyed.eq_of_same (hcompiled.files.mem f' hf') (horder g hg)
        (hpath ▸ Path.same_refl f'.path)
    rcases hwhere with hbefore | ⟨f', hdepends, hcallee'⟩
    · exact .inl (hsame (hall f hf) (by simp [hsplit, hbefore]))
    · have hf' : f' ∈ done :=
        hcompiled.files.mem_of_dependsOn (hcompiled.files.closed f (hall f hf)) hdepends
      exact .inr (hsame hf' hcallee' ▸ hdepends)
  · simp [herror] at hok

/-- Subscriptions of an accepted program are the ways along the stops of its rules, where each
place stands for a topic of its own. -/
theorem graph_of_compileAll (hkeyed : files.Keyed) (hroom : files.nodeCount ≤ NodeId.room)
    (hok : (newWith registry config given).compileAll files = (.ok (), rs)) :
    ∃ topic : Place → Topic,
      (∀ p q, Declared files.rules p → Declared files.rules q → topic p = topic q → p = q) ∧
      ∀ e, e ∈ rs.bus.edges ↔ ∃ p q, Feeds files.rules p q ∧ e = ⟨topic p, topic q⟩ := by
  have hwired : rs.Wired := by
    have h := wired_after registry config [.threads given, .compileAll files]
    have hcall : after registry config [.threads given, .compileAll files] =
        ((newWith registry config given).compileAll files).2 := rfl
    rwa [hcall, hok] at h
  rw [compileAll] at hok
  have hnew := hasCompiled_new files registry config given
  rcases compileEach_cases hkeyed hroom (fun _ hf => hf) hnew rfl with
    ⟨rs', done, hok', hcompiled, hall⟩ | ⟨⟨e, rs', herror⟩, -⟩
  · obtain rfl : rs' = rs := congrArg Prod.snd (hok'.symm.trans hok)
    obtain ⟨topic, hchart, -⟩ := hcompiled.holds.chart
    have hchart := (hchart.congr hwired.mem_edges).of_mem_iff fun _ =>
      (hcompiled.perm_rules hkeyed hall).mem_iff
    exact ⟨topic, hchart.inj, hchart.edges⟩
  · simp [herror] at hok

/-- Just those well-formed programs are accepted for whose nodes threads can be started: each node
that feeds another one needs a thread, which is named after its type. So with ample threads these
are the well-formed programs in which no such type has a NUL in its name. It does not matter in
which order files are taken. Stops of an accepted program feed each other along the subscriptions
made for it. Whatever order files are compiled in, no rule is called but in its own file and in
those that depend on it. -/
theorem accepts_exactly_wellFormed (registry : Registry) (config : Config) (files : ParsedFiles)
    (hkeyed : files.Keyed) (hroom : files.nodeCount ≤ 2 ^ 32) (given : Threads) :
    (((newWith registry config given).compileAll files).1 = .ok () ↔
      files.WellFormed registry config ∧ Dispatchable given files.rules) ∧
    (∀ order, (∀ f, f ∈ order ↔ f ∈ files.values) →
      (((newWith registry config given).compileEach files order).1 = .ok () ↔
        files.WellFormed registry config ∧ Dispatchable given files.rules)) ∧
    (∀ rs, (newWith registry config given).compileAll files = (.ok (), rs) →
      ∃ topic : Place → Topic,
      (∀ p q, Declared files.rules p → Declared files.rules q → topic p = topic q → p = q) ∧
      ∀ e, e ∈ rs.bus.edges ↔ ∃ p q, Feeds files.rules p q ∧ e = ⟨topic p, topic q⟩) ∧
    ∀ order, (∀ f ∈ order, f ∈ files.values) →
      ((newWith registry config given).compileEach files order).1 = .ok () →
      ∀ f ∈ order, ∀ g ∈ order, ∀ r ∈ f.rules, ∀ callee ∈ g.rules,
        .call callee.name ∈ r.body.chain → f = g ∨ files.DependsOn f g := by
  have hcompilable : files.Compilable registry config given ↔
      files.WellFormed registry config ∧ Dispatchable given files.rules :=
    ⟨fun h => ⟨h.wellFormed, h.dispatchable⟩, fun h => ⟨h.1, h.2⟩⟩
  refine ⟨?_, fun order horder => ?_, fun rs hok => ?_,
    fun order horder hok f hf g hg r hr callee hcallee hcall => ?_⟩
  · exact (compileEach_eq_ok_iff hkeyed hroom fun _ => .rfl).trans hcompilable
  · exact (compileEach_eq_ok_iff hkeyed hroom horder).trans hcompilable
  · exact graph_of_compileAll hkeyed hroom hok
  · exact calls_within_dependencies hkeyed hroom horder hok hf hg hr hcallee hcall

/-- No thread can be named after a type with a NUL in its name. A rule of two such filters is
well-formed, and is not compiled though all threads were given. -/
theorem unnameable_not_accepted :
    let registry := Registry.empty.addFilter "a\x00b" fun _ => .ok .matched
    let rule : Rule :=
      ⟨"r", ⟨1, 1⟩, .fragment (.filter "a\x00b" [] false) [.filter "a\x00b" [] false]⟩
    let files : ParsedFiles := [(⟨"main"⟩, ⟨⟨"main"⟩, [], [rule]⟩)]
    files.Keyed ∧ files.nodeCount ≤ 2 ^ 32 ∧ files.WellFormed registry .empty ∧
      ((new registry .empty).compileAll files).1 =
        .error (.inRule ⟨"main"⟩ "r" (.unnamedThread ⟨"a\x00b:0"⟩)) := by
  intro registry rule files
  have hrules : files.rules = [rule] := rfl
  have hvalues {f : RuleFile} (hf : f ∈ files.values) : f = ⟨⟨"main"⟩, [], [rule]⟩ :=
    List.mem_singleton.mp hf
  refine ⟨⟨by simp [files, Path.same_refl], by simp [files]⟩, ?_, ⟨fun f hf => ?_, ?_, ?_⟩, ?_⟩
  · have hcount : files.nodeCount = 2 := rfl
    omega
  · obtain rfl := hvalues hf
    refine ⟨by simp, fun hcycle => ?_, by simp [rule], fun r hr => ?_, fun before r after hr => ?_⟩
    · obtain ⟨g, ⟨path, hpath, -⟩, -⟩ := Relation.TransGen.head'_iff.mp hcycle
      cases hpath
    · obtain rfl := List.mem_singleton.mp hr
      refine ⟨by simp [rule, RuleBody.producer?], fun type written negated hmem => ?_⟩
      obtain rfl : type = "a\x00b" := by simp_all [rule, RuleBody.chain]
      exact ⟨_, _, rfl, rfl⟩
    · have hsplit : [rule] = before ++ r :: after := hr
      have hmem : r ∈ [rule] := by simp [hsplit]
      obtain rfl := List.mem_singleton.mp hmem
      simp [rule, RuleBody.chain]
  · simp [hrules]
  · rw [hrules]
    refine cycleFree_of_no_calls fun r hr name => ?_
    obtain rfl := List.mem_singleton.mp hr
    simp [rule, RuleBody.stops, Link.stop]
  · simp only [registry, files, rule]
    cbv

/-- A call needs the import of the file that it leads to, and one thread is needed and enough for
one node that feeds another. -/
theorem accepts_exactly_wellFormed_import :
    let registry := Registry.empty.addFilter "pass" fun _ => .ok .matched
    let base : Rule := ⟨"base", ⟨1, 1⟩, .fragment (.filter "pass" [] false) []⟩
    let top : Rule := ⟨"top", ⟨1, 1⟩, .fragment (.call "base") [.filter "pass" [] true]⟩
    let files (imports : List Path) : ParsedFiles :=
      [(⟨"lib"⟩, ⟨⟨"lib"⟩, [], [base]⟩), (⟨"main"⟩, ⟨⟨"main"⟩, imports, [top]⟩)]
    (∀ imports, (files imports).Keyed ∧ (files imports).nodeCount ≤ 2 ^ 32) ∧
      (files [⟨"lib"⟩]).WellFormed registry .empty ∧ ¬ (files []).WellFormed registry .empty ∧
      Dispatchable (.few 1 "") (files [⟨"lib"⟩]).rules ∧
      ¬ Dispatchable (.few 0 "") (files [⟨"lib"⟩]).rules := by
  intro registry base top files
  have hkeyed (imports : List Path) : (files imports).Keyed := by
    constructor
    · simp [files, Path.same_refl]
    · have hdistinct : Path.same ⟨"lib"⟩ ⟨"main"⟩ = false := by decide
      simp [files, hdistinct]
  have hroom (imports : List Path) : (files imports).nodeCount ≤ 2 ^ 32 := by
    have hcount : (files imports).nodeCount = 2 := rfl
    omega
  have hexact (imports : List Path) (given : Threads) :=
    (accepts_exactly_wellFormed registry .empty _ (hkeyed imports) (hroom imports) given).1
  have haccepted :
      ((newWith registry .empty (.few 1 "")).compileAll (files [⟨"lib"⟩])).1 = .ok () := by
    simp only [registry, files, base, top]
    cbv
  have hrefused :
      ((newWith registry .empty (.few 0 "")).compileAll (files [⟨"lib"⟩])).1 ≠ .ok () := by
    simp only [registry, files, base, top]
    cbv
    simp
  have hunanswered : ((newWith registry .empty (.few 1 "")).compileAll (files [])).1 ≠ .ok () := by
    simp only [registry, files, base, top]
    cbv
    simp
  obtain ⟨hwellFormed, hdispatchable⟩ := (hexact [⟨"lib"⟩] (.few 1 "")).mp haccepted
  have hsame : (files [⟨"lib"⟩]).rules = (files []).rules := rfl
  refine ⟨fun imports => ⟨hkeyed imports, hroom imports⟩, hwellFormed, fun hill => ?_,
    hdispatchable, fun hfew => ?_⟩
  · exact hunanswered ((hexact [] (.few 1 "")).mpr ⟨hill, hsame ▸ hdispatchable⟩)
  · exact hrefused ((hexact [⟨"lib"⟩] (.few 0 "")).mpr ⟨hwellFormed, hfew⟩)

end Ruleset
end RuleGraph
