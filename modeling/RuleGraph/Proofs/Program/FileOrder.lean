import RuleGraph.Proofs.Graph.Assembly
import RuleGraph.Proofs.Program.BrokenImports

/-!
# The order of files

Compiling a file adds its rules, and those of the files that it needs and that were not compiled
before. If all goes well, every rule of every file was added just once in the end, whichever file
came first. So the order of files decides on nothing but the numbers of nodes.
-/
namespace RuleGraph.Ruleset

/-- The files on record: different ones, none of which is in progress. -/
structure Recorded (rs : Ruleset) (files : ParsedFiles) (done : List RuleFile) : Prop where
  paths : rs.compiled.map Prod.fst = done.map RuleFile.path
  mem : ∀ f ∈ done, f ∈ files.values
  nodup : done.Nodup
  waiting : ∀ f ∈ done, hasPath rs.inProgress f.path = false

/-- More files are on record, and theirs are the rules that were attempted. -/
structure Completes (files : ParsedFiles) (done : List RuleFile) (as : List Attempt) (rs : Ruleset)
    (more : List RuleFile) : Prop where
  recorded : rs.Recorded files (done ++ more)
  sources : as.map Attempt.source = more.flatMap RuleFile.added

variable {rs rs' : Ruleset} {files : ParsedFiles} {done more : List RuleFile} {f : RuleFile}
  {as bs : List Attempt} {deps : List Path}

/-! ### Records -/

theorem recorded_new (registry : Registry) (config : Config) (given : Threads)
    (files : ParsedFiles) : (newWith registry config given).Recorded files [] :=
  ⟨rfl, by simp, List.nodup_nil, by simp⟩

theorem Recorded.of_eq (h : rs.Recorded files done) (hcompiled : rs'.compiled = rs.compiled)
    (hprogress : rs'.inProgress = rs.inProgress) : rs'.Recorded files done :=
  ⟨hcompiled ▸ h.paths, h.mem, h.nodup, hprogress ▸ h.waiting⟩

theorem Recorded.isCompiled_iff (h : rs.Recorded files done) (hkeyed : files.Keyed)
    (hf : f ∈ files.values) : rs.isCompiled f.path = true ↔ f ∈ done := by
  have hpaths : rs.isCompiled f.path = true ↔ hasPath (rs.compiled.map Prod.fst) f.path = true := by
    rw [Ruleset.isCompiled_iff, hasPath_iff]
    simp
  rw [hpaths, h.paths, hkeyed.hasPath_map_path_iff h.mem hf]

theorem Recorded.enter (h : rs.Recorded files done) (hkeyed : files.Keyed) (hf : f ∈ files.values)
    (hnew : f ∉ done) : (rs.enter f.path).Recorded files done :=
  ⟨h.paths, h.mem, h.nodup, waiting_enter hkeyed h.mem hf hnew h.waiting⟩

/-- A file that was in progress is put on record. -/
theorem Recorded.leave (h : rs.Recorded files done) (hf : f ∈ files.values)
    {inProgress : List Path} (hprogress : rs.inProgress = f.path :: inProgress)
    (hother : hasPath inProgress f.path = false) (deps : List Path) :
    ({ rs.leave f.path with compiled := rs.compiled ++ [(f.path, deps)] } : Ruleset).Recorded files
      (done ++ [f]) := by
  have hwaiting : ∀ g ∈ done, hasPath (f.path :: inProgress) g.path = false := hprogress ▸ h.waiting
  -- it was not compiled meanwhile, because it was in progress
  have hnew : f ∉ done := by
    intro hmem
    have hself := (Bool.or_eq_false_iff.mp (hwaiting f hmem)).1
    rw [Path.same_refl] at hself
    cases hself
  refine ⟨?_, ?_, ?_, fun g hg => ?_⟩
  · rw [List.map_append, List.map_append, h.paths]
    rfl
  · intro g hg
    rcases List.mem_append.mp hg with hg | hg
    · exact h.mem g hg
    · exact List.mem_singleton.mp hg ▸ hf
  · rw [← List.concat_eq_append]
    exact h.nodup.concat hnew
  · refine (congrArg (hasPath · g.path) (inProgress_leave hprogress hother)).trans ?_
    exact waiting_leave hwaiting hother g hg

/-! ### What a step that goes well completes -/

theorem completes_nil (h : rs.Recorded files done) : Completes files done [] rs [] :=
  ⟨by simpa using h, rfl⟩

theorem Completes.append {more' : List RuleFile} (h : Completes files done as rs more)
    (h' : Completes files (done ++ more) bs rs' more') :
    Completes files done (as ++ bs) rs' (more ++ more') := by
  refine ⟨by simpa using h'.recorded, ?_⟩
  rw [List.map_append, h.sources, h'.sources, List.flatMap_append]

theorem sources_addRulesAttempts {file : Path} {rules : List Rule}
    (hok : rs.addRules file deps rules = (.ok (), rs')) :
    (addRulesAttempts file deps rules rs).map Attempt.source = rules.map (file, ·) := by
  induction rules generalizing rs with
  | nil => rfl
  | cons rule rest ih =>
    rw [addRules_cons, andThen_eq_ok_iff] at hok
    obtain ⟨⟨⟩, rs₁, hadd, hrest⟩ := hok
    rw [addRulesAttempts, hadd, List.map_append, List.map_cons, behind, ih hrest]
    rfl

section Compiling

variable {compile : RuleFile → Ruleset → Outcome (List Path)}
  {attempts : RuleFile → Ruleset → List Attempt} (hkeyed : files.Keyed)
  (hcompile : ∀ g ∈ files.values, ∀ rs done deps rs', Recorded rs files done →
    compile g rs = (.ok deps, rs') →
    ∃ more, Completes files done (attempts g rs) rs' more ∧ g ∈ done ++ more)
include hkeyed hcompile

theorem completes_compileImports {file : Path} {deps paths deps' : List Path}
    (h : rs.Recorded files done)
    (hok : compileImports compile files file deps paths rs = (.ok deps', rs')) :
    ∃ more, Completes files done (importsAttempts compile attempts files paths rs) rs' more := by
  induction paths generalizing rs done deps with
  | nil =>
    cases hok
    exact ⟨[], completes_nil h⟩
  | cons path rest ih =>
    rw [importsAttempts]
    cases hget : files.get? path with
    | none => simp [compileImports, hget] at hok
    | some g =>
      rw [compileImports_cons hget, andThen_eq_ok_iff] at hok
      obtain ⟨transitive, rs₁, hstep, hrest⟩ := hok
      have hg := (hkeyed.mem_of_get? hget).1
      obtain ⟨more, hmore, -⟩ := hcompile g hg rs done transitive rs₁ h hstep
      obtain ⟨more', hmore'⟩ := ih hmore.recorded hrest
      refine ⟨more ++ more', ?_⟩
      dsimp only
      rw [hstep]
      exact hmore.append hmore'

/-- The rules of a file come behind those of its imports. -/
theorem completes_compileBody (h : rs.Recorded files done)
    (hok : compileBody compile files f rs = (.ok deps, rs')) :
    ∃ more, rs'.Recorded files (done ++ more) ∧
      (bodyAttempts compile attempts files f rs).map Attempt.source =
        (more ++ [f]).flatMap RuleFile.added := by
  rw [compileBody_eq, andThen_eq_ok_iff] at hok
  obtain ⟨deps', rs₁, himports, hrest⟩ := hok
  rw [andThen_eq_ok_iff] at hrest
  obtain ⟨⟨⟩, rs₂, hrules, hend⟩ := hrest
  cases hend
  obtain ⟨more, hmore⟩ := completes_compileImports hkeyed hcompile h himports
  have hframe := addRules_frame (rs₁.note (.compiling f.path f.rules.length deps.length)) f.path
    deps f.rules
  rw [hrules] at hframe
  refine ⟨more, hmore.recorded.of_eq hframe.1 hframe.2, ?_⟩
  rw [bodyAttempts, himports, List.map_append, hmore.sources, behind,
    sources_addRulesAttempts hrules, List.flatMap_append]
  simp [RuleFile.added]

end Compiling

/-- By induction on the length of chains of imports. A file that was compiled before adds nothing;
any other one is put on record behind the files that its imports bring in. -/
theorem completes_compileWithin (hkeyed : files.Keyed) (depth : Nat) (hf : f ∈ files.values)
    (h : rs.Recorded files done) (hok : compileWithin files depth f rs = (.ok deps, rs')) :
    ∃ more, Completes files done (withinAttempts files depth f rs) rs' more ∧ f ∈ done ++ more := by
  induction depth generalizing f rs done deps rs' with
  | zero => cases hok
  | succ depth ih =>
    rw [withinAttempts]
    by_cases hcompiled : rs.isCompiled f.path = true
    · obtain ⟨known, hknown⟩ := Option.isSome_iff_exists.mp hcompiled
      rw [compileWithin, hknown] at hok
      cases hok
      refine ⟨[], ?_, by simpa using (h.isCompiled_iff hkeyed hf).mp hcompiled⟩
      rw [hcompiled]
      exact completes_nil h
    · have hnew : f ∉ done := fun hmem => hcompiled ((h.isCompiled_iff hkeyed hf).mpr hmem)
      have hunknown : rs.dependencies? f.path = none := by simpa [isCompiled] using hcompiled
      rw [compileWithin, hunknown] at hok
      dsimp only at hok
      split at hok
      · cases hok
      · rename_i hentered
        have hother : hasPath rs.inProgress f.path = false := Bool.eq_false_iff.mpr hentered
        have hprogress := resumes_compileBody hkeyed
          (fun g hg rs => resumes_compileWithin hkeyed depth hg rs) f (rs.enter f.path)
        split at hok
        · cases hok
        · rename_i deps' rs₁ hbody
          cases hok
          rw [hbody] at hprogress
          obtain ⟨more, hmore, hsources⟩ := completes_compileBody hkeyed
            (fun g hg rs done deps rs' => ih hg) (h.enter hkeyed hf hnew) hbody
          refine ⟨more ++ [f], ⟨?_, ?_⟩, by simp⟩
          · rw [← List.append_assoc]
            exact hmore.leave hf hprogress.of_ok hother deps
          · rw [Bool.eq_false_iff.mpr hcompiled, hother]
            exact hsources

theorem completes_compileEach (hkeyed : files.Keyed) {order : List RuleFile}
    (horder : ∀ f ∈ order, f ∈ files.values) (h : rs.Recorded files done)
    (hok : rs.compileEach files order = (.ok (), rs')) :
    ∃ more, Completes files done (eachAttempts files order rs) rs' more ∧
      ∀ f ∈ order, f ∈ done ++ more := by
  induction order generalizing rs done with
  | nil =>
    cases hok
    exact ⟨[], completes_nil h, by simp⟩
  | cons f rest ih =>
    rw [compileEach_cons, andThen_eq_ok_iff] at hok
    obtain ⟨deps, rs₁, hstep, hrest⟩ := hok
    obtain ⟨hf, hall⟩ := List.forall_mem_cons.mp horder
    obtain ⟨more, hmore, hmem⟩ := completes_compileWithin hkeyed _ hf h hstep
    obtain ⟨more', hmore', hmem'⟩ := ih hall hmore.recorded hrest
    refine ⟨more ++ more', ?_, ?_⟩
    · rw [eachAttempts, hstep]
      exact hmore.append hmore'
    · rw [← List.append_assoc]
      exact List.forall_mem_cons.mpr ⟨List.mem_append_left _ hmem, hmem'⟩

/-! ### Whole programs -/

variable {registry : Registry} {config : Config} {given : Threads} {order : List RuleFile}

/-- Once all files are compiled, every rule of every file has one piece. -/
theorem exists_pieces (hkeyed : files.Keyed) (horder : order.Perm files.values)
    (hok : (newWith registry config given).compileEach files order = (.ok (), rs)) :
    ∃ ps : List Piece, rs.Assembles registry config ps ∧
      (ps.map Piece.source).Perm (files.values.flatMap RuleFile.added) := by
  obtain ⟨done, hdone, hall⟩ := completes_compileEach hkeyed (fun f hf => horder.subset hf)
    (recorded_new registry config given files) hok
  have hrecorded : rs.Recorded files done := by simpa using hdone.recorded
  have hperm : done.Perm files.values := by
    rw [List.perm_ext_iff_of_nodup hrecorded.nodup hkeyed.nodup_values]
    exact fun f => ⟨hrecorded.mem f, fun hf => by simpa using hall f (horder.symm.subset hf)⟩
  have htries := tries_compileEach files order (newWith registry config given)
  rw [hok] at htries
  obtain ⟨ps, hsources, hassembles⟩ := htries.attempted.assembles (htries.ok () rfl)
    ((assembles_new registry config).congr ⟨rfl, rfl, rfl, rfl, rfl, rfl, rfl⟩)
  rw [List.append_nil] at hassembles
  refine ⟨ps, hassembles, ?_⟩
  rw [hdone.sources] at hsources
  exact hsources.trans (hperm.flatMap_right _)

theorem numbered_compileEach (registry : Registry) (config : Config) (given : Threads)
    (files : ParsedFiles) (order : List RuleFile) :
    ((newWith registry config given).compileEach files order).2.Numbered :=
  compileEach_induction (P := Numbered)
    (fun _ _ hsame h => h.congr hsame.next hsame.issued hsame.rules)
    (fun _ file rule deps h => h.addRule file rule deps) files order
    ((numbered_new registry config).congr rfl rfl rfl)

/-- Compiling all files gives a number to each node that they declare. -/
theorem nodeCount_le_issued (hkeyed : files.Keyed) (horder : order.Perm files.values)
    (hok : (newWith registry config given).compileEach files order = (.ok (), rs)) :
    files.nodeCount ≤ rs.issued := by
  obtain ⟨ps, hassembles, hsources⟩ := exists_pieces hkeyed horder hok
  have hcounts := (hsources.map fun d => d.2.nodeCount).sum_eq
  have hnodes : rs.nodes.length = (ps.map fun p => p.rule.nodeCount).sum := by
    rw [← hassembles.assembled.length_ids, ← hassembles.perm_ids.length_eq, List.length_map]
  have hall : files.nodeCount =
      ((files.values.flatMap RuleFile.added).map fun d => d.2.nodeCount).sum := by
    rw [ParsedFiles.nodeCount, ParsedFiles.rules, ← ParsedFiles.map_snd_flatMap_added, List.map_map]
    rfl
  have hnumbered := numbered_compileEach registry config given files order
  rw [hok] at hnumbered
  have hle := hnumbered.length_le
  rw [hall, ← hcounts, List.map_map]
  exact hnodes ▸ hle

/-- If one order of all files goes well, every other does. -/
theorem compileEach_ok_of_perm (hkeyed : files.Keyed) {order' : List RuleFile}
    (horder : order.Perm files.values) (horder' : order'.Perm files.values)
    (hroom : ((newWith registry config given).compileEach files order).2.issued ≤ NodeId.room)
    (hok : ((newWith registry config given).compileEach files order).1 = .ok ()) :
    ((newWith registry config given).compileEach files order').1 = .ok () := by
  have hcount : files.nodeCount ≤ NodeId.room :=
    (nodeCount_le_issued hkeyed horder (Prod.ext hok rfl)).trans hroom
  rw [compileEach_eq_ok_iff hkeyed hcount fun f => horder.mem_iff] at hok
  rwa [compileEach_eq_ok_iff hkeyed hcount fun f => horder'.mem_iff]

/-- All files are compiled in one order if they are in another, however many threads there are, as
long as the numbers of nodes do not run out. The two rulesets then have the same rules and the same
subscriptions, but for a one to one renaming of nodes. -/
theorem file_order_irrelevant (registry : Registry) (config : Config) (given : Threads)
    (files : ParsedFiles) (hkeyed : files.Keyed) (order order' : List RuleFile)
    (horder : order.Perm files.values) (horder' : order'.Perm files.values)
    (hroom : ((newWith registry config given).compileEach files order).2.issued ≤ 2 ^ 32)
    (hroom' : ((newWith registry config given).compileEach files order').2.issued ≤ 2 ^ 32) :
    (((newWith registry config given).compileEach files order).1 = .ok () ↔
      ((newWith registry config given).compileEach files order').1 = .ok ()) ∧
    ∀ rs rs', (newWith registry config given).compileEach files order = (.ok (), rs) →
      (newWith registry config given).compileEach files order' = (.ok (), rs') →
      ∃ ρ : NodeId ≃ NodeId, RenamedBy ρ rs rs' := by
  refine ⟨⟨compileEach_ok_of_perm hkeyed horder horder' hroom,
    compileEach_ok_of_perm hkeyed horder' horder hroom'⟩, fun rs rs' hok hok' => ?_⟩
  obtain ⟨ps, hassembles, hsources⟩ := exists_pieces hkeyed horder hok
  obtain ⟨qs, hassembles', hsources'⟩ := exists_pieces hkeyed horder' hok'
  have hnumbered := numbered_compileEach registry config given files order
  have hnumbered' := numbered_compileEach registry config given files order'
  rw [hok] at hnumbered hroom
  rw [hok'] at hnumbered' hroom'
  exact hassembles.exists_renaming hassembles' (hsources.trans hsources'.symm)
    (hnumbered.nodup_ids hroom) (hnumbered'.nodup_ids hroom')

/-- A file that comes last is compiled before another one that imports it, so that the call finds
its rule, whose node has a different number than if the file came first. -/
theorem file_order_irrelevant_import :
    let registry := (Registry.empty.addFilter "pass" fun _ => .ok .matched).addFilter "drop"
      fun _ => .ok .matched
    let base : Rule := ⟨"base", ⟨1, 1⟩, .fragment (.filter "pass" [] false) []⟩
    let top : Rule := ⟨"top", ⟨1, 1⟩, .fragment (.call "base") [.filter "drop" [] true]⟩
    let lone : Rule := ⟨"lone", ⟨1, 1⟩, .fragment (.filter "drop" [] false) []⟩
    let lib : RuleFile := ⟨⟨"lib"⟩, [], [base]⟩
    let main : RuleFile := ⟨⟨"main"⟩, [⟨"lib"⟩], [top]⟩
    let other : RuleFile := ⟨⟨"other"⟩, [], [lone]⟩
    let files : ParsedFiles := [(⟨"lib"⟩, lib), (⟨"main"⟩, main), (⟨"other"⟩, other)]
    let result (order : List RuleFile) := (newWith registry .empty .ample).compileEach files order
    files.Keyed ∧ [other, main, lib].Perm files.values ∧
      (result files.values).1 = .ok () ∧ (result [other, main, lib]).1 = .ok () ∧
      (result [other, main, lib]).2.ruleNames = ["lone", "base", "top"] ∧
      ∃ ρ : NodeId ≃ NodeId,
        RenamedBy ρ (result files.values).2 (result [other, main, lib]).2 := by
  intro registry base top lone lib main other files result
  have hkeyed : files.Keyed := by
    constructor
    · simp [files, lib, main, other, Path.same_refl]
    · decide
  have horder : [other, main, lib].Perm files.values := List.reverse_perm files.values
  have hok : (result files.values).1 = .ok () := by
    simp only [result, files, lib, main, other, base, top, lone, registry]
    cbv
  have hissued : (result files.values).2.issued = 3 := by
    simp only [result, files, lib, main, other, base, top, lone, registry]
    cbv
  have hissued' : (result [other, main, lib]).2.issued = 3 := by
    simp only [result, files, lib, main, other, base, top, lone, registry]
    cbv
  have hnames : (result [other, main, lib]).2.ruleNames = ["lone", "base", "top"] := by
    simp only [result, files, lib, main, other, base, top, lone, registry]
    cbv
  obtain ⟨hiff, hrenamed⟩ := file_order_irrelevant registry .empty .ample files hkeyed files.values
    [other, main, lib] (.refl _) horder (hissued.le.trans (by decide))
    (hissued'.le.trans (by decide))
  have hok' := hiff.mp hok
  exact ⟨hkeyed, horder, hok, hok', hnames,
    hrenamed _ _ (Prod.ext hok rfl) (Prod.ext hok' rfl)⟩

end RuleGraph.Ruleset
