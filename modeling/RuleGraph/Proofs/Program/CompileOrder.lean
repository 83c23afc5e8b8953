import RuleGraph.Proofs.Graph.Atomicity
import RuleGraph.Proofs.Program.FileOrder

/-!
# Compiling in order

The list of imports that is kept for a file is put together from those of the files that it imports
itself, and leaves out what it has already. So it leads to each file that the file depends on once,
and to none before what it imports. Files are put on record in such an order as well, and their
rules are added in this order. What is on record is looked up and not compiled again.
-/
namespace RuleGraph

namespace ParsedFiles

/-- Each file of a list comes behind all files that it imports, those of `done` being first. -/
def ImportsFirst (files : ParsedFiles) (done order : List RuleFile) : Prop :=
  ∀ before f after, order = before ++ f :: after → ∀ g, files.Imports f g → g ∈ done ++ before

/-- The paths lead to different files, to each of them behind all that it imports. -/
structure InOrder (files : ParsedFiles) (deps : List Path) (gs : List RuleFile) : Prop where
  found : deps.map files.get? = gs.map some
  nodup : gs.Nodup
  order : files.ImportsFirst [] gs

/-- The paths lead to just the files that a file depends on, to each of them once and behind all
that it imports. -/
def ListsImports (files : ParsedFiles) (f : RuleFile) (deps : List Path) : Prop :=
  ∃ gs, files.InOrder deps gs ∧ ∀ g, g ∈ gs ↔ files.DependsOn f g

/-- Files on record, each behind its imports and with a list of all files that it depends on. -/
structure Listed (files : ParsedFiles) (record : List (Path × List Path)) (done : List RuleFile) :
    Prop where
  lists : List.Forall₂ (fun c f => c.1 = f.path ∧ files.ListsImports f c.2) record done
  mem : ∀ f ∈ done, f ∈ files.values
  order : files.ImportsFirst [] done

variable {files : ParsedFiles} {done done' order gs hs : List RuleFile} {f g : RuleFile}
  {deps more : List Path} {path : Path} {record : List (Path × List Path)}

/-! ### Orders of files -/

theorem importsFirst_nil : files.ImportsFirst done [] := fun before f after h => by simp at h

theorem importsFirst_cons : files.ImportsFirst done (f :: order) ↔
    (∀ g, files.Imports f g → g ∈ done) ∧ files.ImportsFirst (done ++ [f]) order := by
  constructor
  · intro h
    refine ⟨fun g hg => by simpa using h [] f order rfl g hg, fun before f' after horder g hg => ?_⟩
    simpa using h (f :: before) f' after (by rw [horder, List.cons_append]) g hg
  · rintro ⟨hf, horder⟩ before f' after hsplit g hg
    cases before with
    | nil =>
      cases hsplit
      simpa using hf g hg
    | cons f'' before =>
      obtain ⟨rfl, hrest⟩ := List.cons.inj hsplit
      simpa using horder before f' after hrest g hg

theorem ImportsFirst.mono (h : files.ImportsFirst done order) (hsub : done ⊆ done') :
    files.ImportsFirst done' order := by
  intro before f after hsplit g hg
  rcases List.mem_append.mp (h before f after hsplit g hg) with hdone | hbefore
  · exact List.mem_append_left before (hsub hdone)
  · exact List.mem_append_right done' hbefore

theorem ImportsFirst.concat (h : files.ImportsFirst done order)
    (hf : ∀ g, files.Imports f g → g ∈ done ++ order) :
    files.ImportsFirst done (order ++ [f]) := by
  induction order generalizing done with
  | nil => exact importsFirst_cons.mpr ⟨by simpa using hf, importsFirst_nil⟩
  | cons f' order ih =>
    obtain ⟨hf', horder⟩ := importsFirst_cons.mp h
    exact importsFirst_cons.mpr ⟨hf', ih horder (by simpa using hf)⟩

/-! ### Lists of imports -/

theorem inOrder_nil : files.InOrder [] [] := ⟨rfl, List.nodup_nil, importsFirst_nil⟩

theorem InOrder.hasPath_iff (h : files.InOrder deps gs) (hkeyed : files.Keyed) {p : Path} :
    Ruleset.hasPath deps p = true ↔ ∃ g ∈ gs, p.same g.path = true := by
  rw [Ruleset.hasPath_iff]
  constructor
  · rintro ⟨q, hq, hsame⟩
    obtain ⟨g, hg, hget⟩ := List.mem_map.mp (h.found ▸ List.mem_map_of_mem hq)
    exact ⟨g, hg, Path.same_trans hsame (hkeyed.mem_of_get? hget.symm).2⟩
  · rintro ⟨g, hg, hsame⟩
    obtain ⟨q, hq, hget⟩ := List.mem_map.mp (h.found ▸ List.mem_map_of_mem hg)
    exact ⟨q, hq, Path.same_trans hsame (Path.same_comm ▸ (hkeyed.mem_of_get? hget).2)⟩

theorem InOrder.mem_values (h : files.InOrder deps gs) (hkeyed : files.Keyed) (hg : g ∈ gs) :
    g ∈ files.values := by
  obtain ⟨q, -, hget⟩ := List.mem_map.mp (h.found ▸ List.mem_map_of_mem hg)
  exact (hkeyed.mem_of_get? hget).1

theorem InOrder.hasPath_path_iff (h : files.InOrder deps gs) (hkeyed : files.Keyed)
    (hg : g ∈ files.values) : Ruleset.hasPath deps g.path = true ↔ g ∈ gs := by
  rw [h.hasPath_iff hkeyed]
  constructor
  · rintro ⟨g', hg', hsame⟩
    exact hkeyed.eq_of_same hg (h.mem_values hkeyed hg') hsame ▸ hg'
  · exact fun hmem => ⟨g, hmem, Path.same_refl g.path⟩

/-- Paths of files that come behind their imports are appended, unless they are there. -/
theorem InOrder.addPaths (h : files.InOrder deps gs) (hkeyed : files.Keyed)
    (hfound : more.map files.get? = hs.map some) (horder : files.ImportsFirst gs hs) :
    ∃ gs', files.InOrder (Ruleset.addPaths deps more) gs' := by
  induction more generalizing deps gs hs with
  | nil => exact ⟨gs, h⟩
  | cons q more ih =>
    obtain ⟨g, hs, rfl⟩ : ∃ g hs', hs = g :: hs' := by
      cases hs with
      | nil => simp at hfound
      | cons g hs => exact ⟨g, hs, rfl⟩
    obtain ⟨hget, hmore⟩ := List.cons.inj hfound
    obtain ⟨himports, hrest⟩ := importsFirst_cons.mp horder
    have hstep : Ruleset.addPaths deps (q :: more) =
        Ruleset.addPaths (if Ruleset.hasPath deps q then deps else deps ++ [q]) more := rfl
    obtain ⟨hvalue, hsame⟩ := hkeyed.mem_of_get? hget
    have hmem : Ruleset.hasPath deps q = true ↔ g ∈ gs := by
      rw [Ruleset.hasPath_congr hsame, h.hasPath_path_iff hkeyed hvalue]
    rw [hstep]
    by_cases hg : g ∈ gs
    · rw [if_pos (hmem.mpr hg)]
      exact ih h hmore (hrest.mono (by simp [hg]))
    · rw [if_neg (hmem.not.mpr hg)]
      refine ih ⟨?_, ?_, h.order.concat himports⟩ hmore hrest
      · rw [List.map_append, h.found, List.map_append, List.map_singleton, hget]
        rfl
      · rw [← List.concat_eq_append]
        exact h.nodup.concat hg

theorem ListsImports.covers (h : files.ListsImports f deps) (hkeyed : files.Keyed) :
    files.Covers f deps := by
  obtain ⟨gs, hgs, hmem⟩ := h
  intro p
  simp only [hgs.hasPath_iff hkeyed, hmem]

theorem InOrder.listsImports (h : files.InOrder deps gs) (hkeyed : files.Keyed)
    (hcovers : files.Covers f deps) : files.ListsImports f deps := by
  refine ⟨gs, h, fun g => ⟨fun hg => ?_, fun hdepends => ?_⟩⟩
  · have hvalue := h.mem_values hkeyed hg
    exact (hkeyed.hasPath_of_covers hvalue hcovers).mp ((h.hasPath_path_iff hkeyed hvalue).mpr hg)
  · have hvalue := hkeyed.mem_of_dependsOn hdepends
    exact (h.hasPath_path_iff hkeyed hvalue).mp
      ((hkeyed.hasPath_of_covers hvalue hcovers).mpr hdepends)

/-- One more import is listed, behind all that its file depends on. -/
theorem InOrder.import (h : files.InOrder deps gs) (hkeyed : files.Keyed)
    (hget : files.get? path = some g) (hlists : files.ListsImports g more) :
    ∃ gs', files.InOrder (Ruleset.addPaths deps (more ++ [path])) gs' := by
  obtain ⟨hs, hhs, hmem⟩ := hlists
  have himports : ∀ g', files.Imports g g' → g' ∈ gs ++ hs := fun g' hg' =>
    List.mem_append_right gs ((hmem g').mpr (.single hg'))
  have hfound : (more ++ [path]).map files.get? = (hs ++ [g]).map some := by
    rw [List.map_append, hhs.found, List.map_append, List.map_singleton, hget]
    rfl
  exact h.addPaths hkeyed hfound ((hhs.order.mono (List.nil_subset gs)).concat himports)

/-! ### Files on record -/

theorem listed_nil : files.Listed [] [] := ⟨.nil, by simp, importsFirst_nil⟩

theorem Listed.concat (h : files.Listed record done) (hf : f ∈ files.values)
    (himports : ∀ g, files.Imports f g → g ∈ done) (hlists : files.ListsImports f deps) :
    files.Listed (record ++ [(f.path, deps)]) (done ++ [f]) := by
  refine ⟨List.rel_append h.lists (.cons ⟨rfl, hlists⟩ .nil), fun g hg => ?_,
    h.order.concat himports⟩
  rcases List.mem_append.mp hg with hg | hg
  · exact h.mem g hg
  · exact List.mem_singleton.mp hg ▸ hf

theorem Listed.paths (h : files.Listed record done) :
    record.map Prod.fst = done.map RuleFile.path := by
  rw [← List.forall₂_eq_eq_eq, List.forall₂_map_left_iff, List.forall₂_map_right_iff]
  exact h.lists.imp fun _ _ hlists => hlists.1

theorem Keyed.eq_of_map_path (hkeyed : files.Keyed) (hgs : ∀ g ∈ gs, g ∈ files.values)
    (hhs : ∀ g ∈ hs, g ∈ files.values) (heq : gs.map RuleFile.path = hs.map RuleFile.path) :
    gs = hs := by
  have hfound {fs : List RuleFile} (hfs : ∀ g ∈ fs, g ∈ files.values) :
      (fs.map RuleFile.path).map files.get? = fs.map some := by
    rw [List.map_map]
    exact List.map_congr_left fun g hg => hkeyed.get?_of_same (hfs g hg) (Path.same_refl g.path)
  apply List.map_injective_iff.mpr (Option.some_injective RuleFile)
  rw [← hfound hgs, ← hfound hhs, heq]

end ParsedFiles

namespace Ruleset

/-- A step, whether it goes well or not, puts files on record behind those that are there. Where it
goes well, its result and all files on record are as they should be. -/
def Enrols {α : Type} (files : ParsedFiles) (done : List RuleFile)
    (goal : α → List RuleFile → Prop) (result : Outcome α) : Prop :=
  ∃ more, files.Listed result.2.compiled (done ++ more) ∧
    ∀ a, result.1 = .ok a → goal a (done ++ more)

variable {rs rs' : Ruleset} {files : ParsedFiles} {done : List RuleFile} {f : RuleFile}
  {deps : List Path} {order : List RuleFile} {α β : Type}

theorem enrols_error {goal : α → List RuleFile → Prop} {e : GraphError}
    (h : files.Listed rs.compiled done) : Enrols files done goal (.error e, rs) :=
  ⟨[], by simpa using h, by simp⟩

theorem enrols_ok {goal : α → List RuleFile → Prop} {a : α} (h : files.Listed rs.compiled done)
    (hgoal : goal a done) : Enrols files done goal (.ok a, rs) :=
  ⟨[], by simpa using h, by rintro _ ⟨⟩; simpa using hgoal⟩

theorem Enrols.andThen {goal : α → List RuleFile → Prop} {goal' : β → List RuleFile → Prop}
    {result : Outcome α} {next : α → Ruleset → Outcome β} (h : Enrols files done goal result)
    (hnext : ∀ a rs' more, files.Listed rs'.compiled (done ++ more) → goal a (done ++ more) →
      Enrols files (done ++ more) goal' (next a rs')) :
    Enrols files done goal' (andThen result next) := by
  obtain ⟨more, hlisted, hgoal⟩ := h
  obtain ⟨e | a, rs'⟩ := result
  · exact ⟨more, hlisted, by simp [Ruleset.andThen]⟩
  · obtain ⟨more', hlisted', hgoal'⟩ := hnext a rs' more hlisted (hgoal a rfl)
    rw [List.append_assoc] at hlisted' hgoal'
    exact ⟨more ++ more', hlisted', hgoal'⟩

section Compiling

variable {compile : RuleFile → Ruleset → Outcome (List Path)} (hkeyed : files.Keyed)
  (hcompile : ∀ g ∈ files.values, ∀ rs done, files.Listed rs.compiled done →
    Enrols files done (fun deps done' => g ∈ done' ∧ files.ListsImports g deps) (compile g rs))
include hkeyed hcompile

/-- Imports that were compiled are on record, and the list of all that they bring in is in order. -/
theorem compileImports_enrols {file : Path} {imports paths : List Path} {gs : List RuleFile}
    (h : files.Listed rs.compiled done)
    (himports : ∀ path ∈ imports, ∃ g ∈ done, files.get? path = some g)
    (hbrings : files.Brings imports deps) (horder : files.InOrder deps gs) :
    Enrols files done (fun deps' done' =>
      (∀ path ∈ imports ++ paths, ∃ g ∈ done', files.get? path = some g) ∧
        files.Brings (imports ++ paths) deps' ∧ ∃ gs', files.InOrder deps' gs')
      (compileImports compile files file deps paths rs) := by
  induction paths generalizing rs done imports deps gs with
  | nil =>
    rw [List.append_nil]
    exact enrols_ok h ⟨himports, hbrings, gs, horder⟩
  | cons path paths ih =>
    cases hget : files.get? path with
    | none =>
      rw [compileImports, hget]
      exact enrols_error h
    | some g =>
      rw [compileImports_cons hget]
      have hg := (hkeyed.mem_of_get? hget).1
      apply (hcompile g hg rs done h).andThen
      rintro transitive rs₁ more hlisted ⟨hmem, hlists⟩
      obtain ⟨gs', horder'⟩ := horder.import hkeyed hget hlists
      have himports' : ∀ q ∈ imports ++ [path], ∃ g ∈ done ++ more, files.get? q = some g := by
        intro q hq
        rcases List.mem_append.mp hq with hq | hq
        · obtain ⟨g', hg', hget'⟩ := himports q hq
          exact ⟨g', List.mem_append_left more hg', hget'⟩
        · exact ⟨g, hmem, List.mem_singleton.mp hq ▸ hget⟩
      have hrest := ih hlisted himports' (hbrings.concat hkeyed hget (hlists.covers hkeyed)) horder'
      rwa [List.append_assoc] at hrest

theorem compileBody_enrols (h : files.Listed rs.compiled done) :
    Enrols files done (fun deps done' => (∀ g, files.Imports f g → g ∈ done') ∧
      files.ListsImports f deps) (compileBody compile files f rs) := by
  rw [compileBody_eq]
  refine (compileImports_enrols hkeyed hcompile h (by simp) ParsedFiles.brings_nil
    ParsedFiles.inOrder_nil).andThen ?_
  rintro deps rs₁ more hlisted ⟨hpaths, hbrings, gs, horder⟩
  rw [List.nil_append] at hpaths hbrings
  -- adding rules puts no file on record
  have hframe := (addRules_frame (rs₁.note (.compiling f.path f.rules.length deps.length)) f.path
    deps f.rules).1
  have hrules : Enrols files (done ++ more) (fun _ done' => done' = done ++ more)
      ((rs₁.note (.compiling f.path f.rules.length deps.length)).addRules f.path deps f.rules) :=
    ⟨[], by rw [hframe, List.append_nil]; exact hlisted, fun _ _ => List.append_nil _⟩
  apply hrules.andThen
  intro _ rs₂ more' hlisted' heq
  refine enrols_ok hlisted' ⟨fun g hg => ?_, horder.listsImports hkeyed hbrings.covers⟩
  rw [heq]
  exact ParsedFiles.mem_of_imports hpaths hg

end Compiling

theorem listsImports_of_known (h : files.Listed rs.compiled done) (hkeyed : files.Keyed)
    (hf : f ∈ files.values) (hknown : rs.dependencies? f.path = some deps) :
    f ∈ done ∧ files.ListsImports f deps := by
  rw [dependencies?, Option.map_eq_some_iff] at hknown
  obtain ⟨c, hfind, rfl⟩ := hknown
  obtain ⟨g, hg, hpath, hlists⟩ :=
    exists_of_forall₂_left h.lists (List.mem_of_find?_eq_some hfind)
  have hsame := List.find?_some hfind
  rw [hpath] at hsame
  obtain rfl := hkeyed.eq_of_same hf (h.mem g hg) hsame
  exact ⟨hg, hlists⟩

/-- By induction on the length of chains of imports, whether it goes well or not. -/
theorem compileWithin_enrols (hkeyed : files.Keyed) (depth : Nat) (hf : f ∈ files.values)
    (h : files.Listed rs.compiled done) :
    Enrols files done (fun deps done' => f ∈ done' ∧ files.ListsImports f deps)
      (compileWithin files depth f rs) := by
  induction depth generalizing f rs done with
  | zero => exact enrols_error h
  | succ depth ih =>
    rw [compileWithin]
    cases hknown : rs.dependencies? f.path with
    | some deps => exact enrols_ok h (listsImports_of_known h hkeyed hf hknown)
    | none =>
      dsimp only
      split
      · exact enrols_error h
      · have hentered : files.Listed (rs.enter f.path).compiled done := h
        have hbody : Enrols files done (fun deps done' => (∀ g, files.Imports f g → g ∈ done') ∧
            files.ListsImports f deps)
            (compileBody (compileWithin files depth) files f (rs.enter f.path)) :=
          compileBody_enrols hkeyed (fun g hg rs done h => ih hg h) hentered
        obtain ⟨more, hlisted, hgoal⟩ := hbody
        split
        · rename_i e rs₁ heq
          rw [heq] at hlisted
          exact ⟨more, (compiled_giveUp rs₁ f.path e).symm ▸ hlisted, by simp⟩
        · rename_i deps rs₁ heq
          rw [heq] at hlisted hgoal
          obtain ⟨himports, hlists⟩ := hgoal deps rfl
          have hconcat := hlisted.concat hf himports hlists
          rw [List.append_assoc] at hconcat
          refine ⟨more ++ [f], hconcat, ?_⟩
          rintro _ ⟨⟩
          exact ⟨by simp, hlists⟩

theorem compileEach_enrols (hkeyed : files.Keyed)
    (horder : ∀ f ∈ order, f ∈ files.values) (h : files.Listed rs.compiled done) :
    Enrols files done (fun _ _ => True) (rs.compileEach files order) := by
  induction order generalizing rs done with
  | nil => exact enrols_ok h trivial
  | cons f rest ih =>
    obtain ⟨hf, hrest⟩ := List.forall_mem_cons.mp horder
    rw [compileEach_cons]
    apply (compileWithin_enrols hkeyed _ hf h).andThen
    exact fun _ rs₁ more hlisted _ => ih hrest hlisted

/-! ### Histories -/

theorem exists_listed_after (registry : Registry) (config : Config) (hkeyed : files.Keyed)
    {calls : List Call} (hcalls : ∀ c ∈ calls, c.Over files) :
    ∃ done, files.Listed (after registry config calls).compiled done := by
  unfold after
  induction calls using List.reverseRecOn with
  | nil => exact ⟨[], ParsedFiles.listed_nil⟩
  | append_singleton calls c ih =>
    obtain ⟨done, hlisted⟩ := ih fun c hc => hcalls c (List.mem_append_left _ hc)
    have hc : c.Over files := hcalls c (by simp)
    rw [List.foldl_append]
    cases hc with
    | compile mem =>
      obtain ⟨more, hmore, -⟩ := compileWithin_enrols hkeyed (files.length + 2) mem hlisted
      exact ⟨_, hmore⟩
    | compileAll =>
      obtain ⟨more, hmore, -⟩ := compileEach_enrols hkeyed (fun _ => id) hlisted
      exact ⟨_, hmore⟩
    | threads given => exact ⟨done, hlisted⟩

/-- Where all attempts go well, the names of their rules are appended. -/
theorem Attempted.ruleNames {as : List Attempt} (h : Attempted rs as rs')
    (hok : ∀ a ∈ as, a.Ok) : rs'.ruleNames = rs.ruleNames ++ as.map fun a => a.rule.name := by
  induction h with
  | done same => simp [Ruleset.ruleNames, same.rules]
  | @next rs rs' a as same _ ih =>
    obtain ⟨ha, has⟩ := List.forall_mem_cons.mp hok
    have hadded : a.result.2.ruleNames = rs.ruleNames ++ [a.rule.name] := by
      rcases addRule_outcome a.rs a.file a.rule a.deps with
        ⟨cause, rs₁, herror, -⟩ | ⟨flow, wires, s, rs₁, hadd, -, hextends⟩ |
        ⟨flow, before, w, after, s, refusal, rs₁, herror, -⟩
      · rw [Attempt.Ok, Attempt.result, herror] at ha
        cases ha
      · rw [Attempt.result, hadd, hextends.order, Ruleset.ruleNames, same.rules]
        rfl
      · rw [Attempt.Ok, Attempt.result, herror] at ha
        cases ha
    rw [ih has, hadded, List.append_assoc]
    rfl

/-- What is on record is looked up. -/
theorem compile_of_known (hknown : rs.dependencies? f.path = some deps) :
    rs.compile files f = (.ok deps, rs) := by
  rw [compile, compileWithin, hknown]

theorem exists_known_of_listed (h : files.Listed rs.compiled done) (hkeyed : files.Keyed)
    (hf : f ∈ done) : ∃ deps, rs.dependencies? f.path = some deps ∧ files.ListsImports f deps := by
  obtain ⟨c, hc, hpath, -⟩ := exists_of_forall₂_right h.lists hf
  have hcompiled : rs.isCompiled f.path = true :=
    isCompiled_iff.mpr ⟨c, hc, hpath ▸ Path.same_refl c.1⟩
  obtain ⟨deps, hknown⟩ := Option.isSome_iff_exists.mp hcompiled
  exact ⟨deps, hknown, (listsImports_of_known h hkeyed (h.mem f hf) hknown).2⟩

theorem compileEach_of_known (h : ∀ f ∈ order, rs.isCompiled f.path = true) :
    rs.compileEach files order = (.ok (), rs) := by
  induction order with
  | nil => rfl
  | cons f order ih =>
    obtain ⟨hf, horder⟩ := List.forall_mem_cons.mp h
    obtain ⟨deps, hknown⟩ := Option.isSome_iff_exists.mp hf
    rw [compileEach_cons, compile_of_known hknown]
    exact ih horder

/-- Calls change nothing where all files are on record, but for what the system will answer. -/
theorem call_of_known (h : ∀ f ∈ files.values, rs.isCompiled f.path = true) {c : Call}
    (hc : c.Over files) : ∃ threads, rs.call c = { rs with threads } := by
  cases hc with
  | @compile f mem =>
    obtain ⟨deps, hknown⟩ := Option.isSome_iff_exists.mp (h f mem)
    exact ⟨rs.threads, congrArg Prod.snd (compile_of_known hknown)⟩
  | compileAll => exact ⟨rs.threads, congrArg Prod.snd (compileEach_of_known h)⟩
  | threads given => exact ⟨given, rfl⟩

theorem foldl_call_of_known (h : ∀ f ∈ files.values, rs.isCompiled f.path = true)
    {calls : List Call} (hcalls : ∀ c ∈ calls, c.Over files) :
    ∃ threads, calls.foldl call rs = { rs with threads } := by
  induction calls generalizing rs with
  | nil => exact ⟨rs.threads, rfl⟩
  | cons c calls ih =>
    obtain ⟨hc, hrest⟩ := List.forall_mem_cons.mp hcalls
    obtain ⟨threads, hcall⟩ := call_of_known h hc
    rw [List.foldl_cons, hcall]
    have hkept : ∀ f ∈ files.values, ({ rs with threads } : Ruleset).isCompiled f.path = true := h
    exact ih hkept hrest

/-- All files are on record once all were compiled, and their rules were added in this order. -/
theorem exists_order (hkeyed : files.Keyed) {registry : Registry} {config : Config}
    {given : Threads} (hok : (newWith registry config given).compileAll files = (.ok (), rs)) :
    ∃ done, files.Listed rs.compiled done ∧ done.Perm files.values ∧
      rs.ruleNames = done.flatMap fun f => f.rules.map Rule.name := by
  rw [compileAll] at hok
  obtain ⟨done, hdone, hall⟩ := completes_compileEach hkeyed (fun _ hf => hf)
    (recorded_new registry config given files) hok
  have hrecorded : rs.Recorded files done := hdone.recorded
  have hlisted : files.Listed rs.compiled done := by
    have hnone : files.Listed (newWith registry config given).compiled [] := ParsedFiles.listed_nil
    obtain ⟨done', hlisted, -⟩ := compileEach_enrols hkeyed (fun _ hf => hf) hnone
    rw [hok] at hlisted
    have heq : done = done' := hkeyed.eq_of_map_path hrecorded.mem hlisted.mem
      (hrecorded.paths.symm.trans hlisted.paths)
    exact heq ▸ hlisted
  have hperm : done.Perm files.values := by
    rw [List.perm_ext_iff_of_nodup hrecorded.nodup hkeyed.nodup_values]
    exact fun f => ⟨hrecorded.mem f, fun hf => hall f hf⟩
  have htries := tries_compileEach files files.values (newWith registry config given)
  rw [hok] at htries
  have hnames := htries.attempted.ruleNames (htries.ok () rfl)
  have hsources := congrArg (List.map fun d : Path × Rule => d.2.name) hdone.sources
  rw [List.map_map, List.map_flatMap] at hsources
  have hadded (f : RuleFile) : (f.added.map fun d => d.2.name) = f.rules.map Rule.name := by
    simp [RuleFile.added]
  simp only [hadded] at hsources
  exact ⟨done, hlisted, hperm, hnames.trans hsources⟩

/-- Once all files are compiled, there is for each of them a list of just the files that it depends
on, each of them once and behind its imports. The rules were added file by file, in such an order as
well. No further call changes anything, whatever threads there are then. Whatever was called before,
a list that is given for a file is such a list. -/
theorem compiles_in_import_order (registry : Registry) (config : Config) (given : Threads)
    (files : ParsedFiles) (hkeyed : files.Keyed) (rs : Ruleset)
    (hok : (newWith registry config given).compileAll files = (.ok (), rs)) :
    (∀ f ∈ files.values, ∃ deps, rs.compile files f = (.ok deps, rs) ∧ files.ListsImports f deps) ∧
    (∃ order, order.Perm files.values ∧ files.ImportsFirst [] order ∧
      rs.ruleNames = order.flatMap fun f => f.rules.map Rule.name) ∧
    rs.compileAll files = (.ok (), rs) ∧
    (∀ calls : List Call, (∀ c ∈ calls, c.Over files) →
      ∃ threads, calls.foldl call rs = { rs with threads }) ∧
    ∀ calls : List Call, (∀ c ∈ calls, c.Over files) → ∀ f ∈ files.values, ∀ deps rs',
      (after registry config calls).compile files f = (.ok deps, rs') →
        files.ListsImports f deps := by
  obtain ⟨order, hlisted, hperm, hnames⟩ := exists_order hkeyed hok
  have hlists : ∀ f ∈ files.values,
      ∃ deps, rs.dependencies? f.path = some deps ∧ files.ListsImports f deps :=
    fun f hf => exists_known_of_listed hlisted hkeyed (hperm.mem_iff.mpr hf)
  have hknown : ∀ f ∈ files.values, rs.isCompiled f.path = true := fun f hf => by
    obtain ⟨deps, hdeps, -⟩ := hlists f hf
    rw [isCompiled, hdeps]
    rfl
  refine ⟨fun f hf => ?_, ⟨order, hperm, hlisted.order, hnames⟩, compileEach_of_known hknown,
    fun calls hcalls => foldl_call_of_known hknown hcalls, fun calls hcalls f hf deps rs' hf' => ?_⟩
  · obtain ⟨deps, hdeps, hlist⟩ := hlists f hf
    exact ⟨deps, compile_of_known hdeps, hlist⟩
  · obtain ⟨done, hbefore⟩ := exists_listed_after registry config hkeyed hcalls
    obtain ⟨more, -, hgoal⟩ := compileWithin_enrols hkeyed (files.length + 2) hf hbefore
    exact (hgoal deps (congrArg Prod.fst hf')).2

/-- A file that two others share stands once in the list of a third one that imports them both, in
front of them, and is compiled first though it comes last by its path. -/
theorem compiles_in_import_order_shared :
    let registry := Registry.empty.addFilter "pass" fun _ => .ok .matched
    let rule (name : String) : Rule := ⟨name, ⟨1, 1⟩, .fragment (.filter "pass" [] false) []⟩
    let a : RuleFile := ⟨⟨"a"⟩, [⟨"b"⟩, ⟨"c"⟩], [rule "first", rule "second"]⟩
    let b : RuleFile := ⟨⟨"b"⟩, [⟨"d"⟩], []⟩
    let c : RuleFile := ⟨⟨"c"⟩, [⟨"d"⟩, ⟨"b"⟩], []⟩
    let d : RuleFile := ⟨⟨"d"⟩, [], [rule "shared"]⟩
    let files : ParsedFiles := [(⟨"a"⟩, a), (⟨"b"⟩, b), (⟨"c"⟩, c), (⟨"d"⟩, d)]
    let result := (newWith registry .empty .ample).compileAll files
    files.Keyed ∧ result.1 = .ok () ∧ result.2.ruleNames = ["shared", "first", "second"] ∧
      (result.2.compile files a).1 = .ok [⟨"d"⟩, ⟨"b"⟩, ⟨"c"⟩] ∧
      files.ListsImports a [⟨"d"⟩, ⟨"b"⟩, ⟨"c"⟩] ∧
      result.2.compileAll files = (.ok (), result.2) := by
  intro registry rule a b c d files result
  have hkeyed : files.Keyed := by
    constructor
    · simp [files, a, b, c, d, Path.same_refl]
    · decide
  have hresult : (result.1, result.2.ruleNames, result.2.dependencies? ⟨"a"⟩) =
      (.ok (), ["shared", "first", "second"], some [⟨"d"⟩, ⟨"b"⟩, ⟨"c"⟩]) := by
    simp only [result, files, a, b, c, d, rule, registry]
    cbv
  simp only [Prod.mk.injEq] at hresult
  obtain ⟨hok, hnames, hknown⟩ := hresult
  obtain ⟨hlists, -, hagain, -⟩ :=
    compiles_in_import_order registry .empty .ample files hkeyed result.2 (Prod.ext hok rfl)
  obtain ⟨deps, hcompile, ha⟩ := hlists a (by simp [files, ParsedFiles.values])
  have hcached : result.2.compile files a = (.ok [⟨"d"⟩, ⟨"b"⟩, ⟨"c"⟩], result.2) := by
    rw [compile, compileWithin, hknown]
  have hdeps : deps = [⟨"d"⟩, ⟨"b"⟩, ⟨"c"⟩] :=
    Except.ok.inj (congrArg Prod.fst (hcompile.symm.trans hcached))
  exact ⟨hkeyed, hok, hnames, congrArg Prod.fst hcached, hdeps ▸ ha, hagain⟩

end Ruleset
end RuleGraph
