import RuleGraph.Proofs.Program.Admission

/-!
# Files of a program

Files are told apart by their paths, whatever the spelling. Behind all files that it depends on, a
file of a program that can be compiled has admissible rules only; and a file whose rules are all
admissible there is well-formed.
-/
namespace RuleGraph

namespace Path

variable {p q r : Path}

theorem same_comm : p.same q = q.same p := by simp [same, Bool.beq_comm]

theorem same_trans (h : p.same q = true) (h' : q.same r = true) : p.same r = true :=
  same_iff.mpr ((same_iff.mp h).trans (same_iff.mp h'))

end Path

namespace Ruleset

theorem hasPath_iff {paths : List Path} {p : Path} :
    hasPath paths p = true ↔ ∃ q ∈ paths, p.same q = true := by simp [hasPath]

theorem hasPath_congr {paths : List Path} {p q : Path} (h : p.same q = true) :
    hasPath paths p = hasPath paths q := by
  have hsame : p.same = q.same := by
    funext r
    rw [Path.same, Path.same, Path.same_iff.mp h]
  rw [hasPath, hasPath, hsame]

theorem hasPath_addPaths {paths more : List Path} {p : Path} :
    hasPath (addPaths paths more) p = true ↔ hasPath paths p = true ∨ hasPath more p = true := by
  induction more generalizing paths with
  | nil => simp [addPaths, hasPath]
  | cons q more ih =>
    have hstep : addPaths paths (q :: more) =
        addPaths (if hasPath paths q then paths else paths ++ [q]) more := rfl
    have hcons : hasPath (q :: more) p = true ↔ p.same q = true ∨ hasPath more p = true := by
      simp [hasPath]
    rw [hstep, ih, hcons]
    split
    · rename_i hq
      constructor
      · rintro (h | h)
        · exact .inl h
        · exact .inr (.inr h)
      · rintro (h | h | h)
        · exact .inl h
        · exact .inl (by rw [hasPath_congr h, hq])
        · exact .inr h
    · have hconcat : hasPath (paths ++ [q]) p = true ↔
          hasPath paths p = true ∨ p.same q = true := by simp [hasPath]
      rw [hconcat, or_assoc]

end Ruleset

/-- The rules of a file, each with the file's path. -/
def RuleFile.added (f : RuleFile) : List (Path × Rule) := f.rules.map (f.path, ·)

namespace ParsedFiles

variable {files : ParsedFiles} {f g : RuleFile} {path : Path}

theorem Keyed.mem_of_get? (h : files.Keyed) (hget : files.get? path = some f) :
    f ∈ files.values ∧ path.same f.path = true := by
  induction files with
  | nil => simp [get?] at hget
  | cons e rest ih =>
    obtain ⟨p, g⟩ := e
    rw [get?] at hget
    split at hget
    · rename_i hp
      cases hget
      exact ⟨List.mem_cons_self, Path.same_trans hp (h.same _ List.mem_cons_self)⟩
    · have hrest : Keyed rest := ⟨fun e he => h.same e (List.mem_cons_of_mem _ he),
        (List.pairwise_cons.mp h.distinct).2⟩
      obtain ⟨hmem, hsame⟩ := ih hrest hget
      exact ⟨List.mem_cons_of_mem _ hmem, hsame⟩

/-- A file is found under every spelling of its path. -/
theorem Keyed.get?_of_same (h : files.Keyed) (hf : f ∈ files.values)
    (hsame : path.same f.path = true) : files.get? path = some f := by
  induction files with
  | nil => simp [values] at hf
  | cons e rest ih =>
    obtain ⟨p, g⟩ := e
    have hp : p.same g.path = true := h.same _ List.mem_cons_self
    obtain ⟨hdistinct, hpairwise⟩ := List.pairwise_cons.mp h.distinct
    rw [get?]
    rcases List.mem_cons.mp hf with rfl | hf
    · rw [if_pos (Path.same_trans hsame (Path.same_comm ▸ hp))]
    · obtain ⟨⟨q, f⟩, he, rfl⟩ := List.mem_map.mp hf
      have hq : q.same f.path = true := h.same _ (List.mem_cons_of_mem _ he)
      have hne : path.same p = false := by
        rw [Bool.eq_false_iff]
        intro hsame'
        have hpq : p.same q = true := Path.same_trans (Path.same_comm ▸ hsame')
          (Path.same_trans hsame (Path.same_comm ▸ hq))
        rw [hdistinct _ he] at hpq
        simp at hpq
      rw [hne]
      exact ih ⟨fun e he => h.same e (List.mem_cons_of_mem _ he), hpairwise⟩ hf

theorem Keyed.eq_of_same (h : files.Keyed) (hf : f ∈ files.values) (hg : g ∈ files.values)
    (hsame : f.path.same g.path = true) : f = g :=
  Option.some.inj ((h.get?_of_same hf (Path.same_refl f.path)).symm.trans (h.get?_of_same hg hsame))

theorem Keyed.nodup_values (h : files.Keyed) : files.values.Nodup := by
  rw [values, List.Nodup, List.pairwise_map]
  refine h.distinct.imp_of_mem fun {e e'} he he' hne heq => ?_
  have hsame : e.1.same e'.1 = true :=
    Path.same_trans (h.same e he) (Path.same_comm ▸ heq ▸ h.same e' he')
  simp [hne] at hsame

theorem Keyed.mem_of_dependsOn (h : files.Keyed) (hdepends : files.DependsOn f g) :
    g ∈ files.values := by
  cases hdepends with
  | single himports => exact (h.mem_of_get? himports.choose_spec.2).1
  | tail _ himports => exact (h.mem_of_get? himports.choose_spec.2).1

theorem Keyed.hasPath_map_path_iff (h : files.Keyed) {chosen : List RuleFile}
    (hsome : ∀ g ∈ chosen, g ∈ files.values) (hf : f ∈ files.values) :
    Ruleset.hasPath (chosen.map RuleFile.path) f.path = true ↔ f ∈ chosen := by
  rw [Ruleset.hasPath_iff]
  constructor
  · rintro ⟨p, hp, hsame⟩
    obtain ⟨g, hg, rfl⟩ := List.mem_map.mp hp
    exact h.eq_of_same hf (hsome g hg) hsame ▸ hg
  · exact fun hmem => ⟨f.path, List.mem_map_of_mem hmem, Path.same_refl _⟩

/-- Where each import leads to one of some files, the imported files are among them. -/
theorem mem_of_imports {done : List RuleFile}
    (himports : ∀ path ∈ f.imports, ∃ g ∈ done, files.get? path = some g)
    (hg : files.Imports f g) : g ∈ done := by
  obtain ⟨path, hpath, hget⟩ := hg
  obtain ⟨g', hg', hget'⟩ := himports path hpath
  exact Option.some.inj (hget.symm.trans hget') ▸ hg'

/-- The paths in a list are those of the files that a file depends on. -/
def Covers (files : ParsedFiles) (f : RuleFile) (deps : List Path) : Prop :=
  ∀ p, Ruleset.hasPath deps p = true ↔ ∃ g, files.DependsOn f g ∧ p.same g.path = true

theorem Keyed.hasPath_of_covers (h : files.Keyed) (hg : g ∈ files.values) {deps : List Path}
    (hcovers : files.Covers f deps) :
    Ruleset.hasPath deps g.path = true ↔ files.DependsOn f g := by
  rw [hcovers]
  constructor
  · rintro ⟨g', hdepends, hsame⟩
    obtain rfl := h.eq_of_same hg (h.mem_of_dependsOn hdepends) hsame
    exact hdepends
  · exact fun hdepends => ⟨g, hdepends, Path.same_refl _⟩

/-- Files whose imports are being compiled: different files, each of which leads to the one that is
compiled now. -/
structure Pending (files : ParsedFiles) (stack : List RuleFile) (f : RuleFile) : Prop where
  mem : ∀ g ∈ stack, g ∈ files.values
  leads : ∀ g ∈ stack, files.DependsOn g f
  nodup : stack.Nodup

theorem pending_nil (files : ParsedFiles) (f : RuleFile) : files.Pending [] f :=
  ⟨by simp, by simp, List.nodup_nil⟩

/-- There are no more files in progress than files. -/
theorem Pending.length_le {stack : List RuleFile} (h : files.Pending stack f) :
    stack.length ≤ files.length := by
  have hle := (List.subperm_of_subset h.nodup h.mem).length_le
  rwa [ParsedFiles.values, List.length_map] at hle

/-- A file that is not in progress yet is, while its imports are compiled. -/
theorem Pending.push {stack : List RuleFile} (h : files.Pending stack f) (hf : f ∈ files.values)
    (hnew : f ∉ stack) (hg : files.Imports f g) : files.Pending (f :: stack) g :=
  ⟨List.forall_mem_cons.mpr ⟨hf, h.mem⟩,
    List.forall_mem_cons.mpr ⟨.single hg, fun g' hg' => (h.leads g' hg').tail hg⟩,
    List.nodup_cons.mpr ⟨hnew, h.nodup⟩⟩

/-! ### Rules of several files -/

theorem map_snd_flatMap_added (done : List RuleFile) :
    (done.flatMap RuleFile.added).map Prod.snd = done.flatMap RuleFile.rules := by
  simp [List.map_flatMap, RuleFile.added, Function.comp_def]

theorem mem_flatMap_added {done : List RuleFile} {d : Path × Rule} :
    d ∈ done.flatMap RuleFile.added ↔ ∃ f ∈ done, d.1 = f.path ∧ d.2 ∈ f.rules := by
  obtain ⟨path, r⟩ := d
  simp only [List.mem_flatMap, RuleFile.added, List.mem_map, Prod.mk.injEq]
  constructor
  · rintro ⟨f, hf, r, hr, rfl, rfl⟩
    exact ⟨f, hf, rfl, hr⟩
  · rintro ⟨f, hf, rfl, hr⟩
    exact ⟨f, hf, r, hr, rfl, rfl⟩

theorem countNodes_flatMap (done : List RuleFile) :
    countNodes (done.flatMap RuleFile.rules) = (done.map fun f => countNodes f.rules).sum := by
  induction done with
  | nil => rfl
  | cons f done ih =>
    rw [List.flatMap_cons, countNodes, List.map_append, List.sum_append, ← countNodes, ← countNodes,
      ih, List.map_cons, List.sum_cons]

theorem countNodes_le {done : List RuleFile} (hnodup : done.Nodup)
    (hmem : ∀ f ∈ done, f ∈ files.values) :
    countNodes (done.flatMap RuleFile.rules) ≤ files.nodeCount := by
  obtain ⟨chosen, hperm, hsub⟩ := List.subperm_of_subset hnodup hmem
  have hall : files.nodeCount = countNodes (files.values.flatMap RuleFile.rules) := rfl
  rw [hall, countNodes_flatMap, countNodes_flatMap, ← (hperm.map _).sum_eq]
  exact (hsub.map _).sum_le_sum fun _ _ => Nat.zero_le _

/-- Where all names are different, rules of one name stand in one file. -/
theorem eq_of_name (hnames : (files.rules.map Rule.name).Nodup) (hf : f ∈ files.values)
    (hg : g ∈ files.values) {r r' : Rule} (hr : r ∈ f.rules) (hr' : r' ∈ g.rules)
    (hname : r.name = r'.name) : f = g := by
  by_contra hne
  rw [rules, List.map_flatMap, List.nodup_flatMap] at hnames
  have : Std.Symm (Function.onFun List.Disjoint fun f : RuleFile => f.rules.map Rule.name) :=
    ⟨fun _ _ h _ ha hb => h hb ha⟩
  have hdisjoint := hnames.2.forall hf hg hne
  exact hdisjoint (List.mem_map_of_mem hr) (hname ▸ List.mem_map_of_mem hr')

/-! ### Admissible rules and well-formed files -/

/-- A well-formed program for whose nodes threads can be started. -/
structure Compilable (files : ParsedFiles) (registry : Registry) (config : Config)
    (given : Threads) : Prop where
  wellFormed : files.WellFormed registry config
  dispatchable : Dispatchable given files.rules

variable {registry : Registry} {config : Config} {given : Threads} {done : List RuleFile}
  {deps : List Path}

/-- Behind all files that it depends on, a file of a program that can be compiled has admissible
rules. -/
theorem Compilable.admissible (h : files.Compilable registry config given) (hkeyed : files.Keyed)
    (hdone : ∀ g ∈ done, g ∈ files.values) (hf : f ∈ files.values) (hnew : f ∉ done)
    (hbehind : ∀ g, files.DependsOn f g → g ∈ done) (hcovers : files.Covers f deps)
    {before after : List Rule} {rule : Rule} (hsplit : f.rules = before ++ rule :: after) :
    Admissible registry config given (done.flatMap RuleFile.added ++ before.map (f.path, ·)) f.path
      deps rule := by
  have hrule : rule ∈ f.rules := by simp [hsplit]
  have hbefore : ∀ r ∈ before, r ∈ f.rules := fun r hr => by simp [hsplit, hr]
  have hrules : (done.flatMap RuleFile.added ++ before.map (f.path, ·)).map Prod.snd =
      done.flatMap RuleFile.rules ++ before := by
    rw [List.map_append, map_snd_flatMap_added, List.map_map]
    simp [Function.comp_def]
  have hsub : ∀ r ∈ (done.flatMap RuleFile.added ++ before.map (f.path, ·)).map Prod.snd ++ [rule],
      r ∈ files.rules := by
    intro r hr
    simp only [hrules, List.mem_append, List.mem_singleton] at hr
    rcases hr with (hr | hr) | rfl
    · obtain ⟨g, hg, hr⟩ := List.mem_flatMap.mp hr
      exact List.mem_flatMap.mpr ⟨g, hdone g hg, hr⟩
    · exact List.mem_flatMap.mpr ⟨f, hf, hbefore r hr⟩
    · exact List.mem_flatMap.mpr ⟨f, hf, hrule⟩
  have hfile := h.wellFormed.each f hf
  refine ⟨hfile.named rule hrule, ?_, hfile.constructible rule hrule, ?_,
    h.wellFormed.cycleFree.mono hsub, h.dispatchable.mono hsub⟩
  · rw [hrules]
    intro hmem
    -- a rule of the same name would stand in another file, or further up in this one
    obtain ⟨r, hr, hname⟩ := List.mem_map.mp hmem
    rcases List.mem_append.mp hr with hr | hr
    · obtain ⟨g, hg, hr⟩ := List.mem_flatMap.mp hr
      obtain rfl := eq_of_name h.wellFormed.distinct (hdone g hg) hf hr hrule hname
      exact hnew hg
    · have hnames := h.wellFormed.distinct
      rw [rules, List.map_flatMap, List.nodup_flatMap] at hnames
      have hnames := hnames.1 f hf
      rw [hsplit, List.map_append, List.map_cons, List.nodup_append] at hnames
      exact hnames.2.2 _ (List.mem_map_of_mem hr) _ List.mem_cons_self hname
  · intro name hcall
    obtain ⟨callee, hname, hproducer, hwhere⟩ :=
      hfile.calls before rule after hsplit name hcall
    rcases hwhere with hmem | ⟨g, hdepends, hmem⟩
    · exact ⟨(f.path, callee), List.mem_append_right _ (List.mem_map_of_mem hmem), hname, hproducer,
        .inl (Path.same_refl _)⟩
    · have hg := hbehind g hdepends
      exact ⟨(g.path, callee),
        List.mem_append_left _ (mem_flatMap_added.mpr ⟨g, hg, rfl, hmem⟩), hname, hproducer,
        .inr ((hkeyed.hasPath_of_covers (hdone g hg) hcovers).mpr hdepends)⟩

/-- A file whose rules are all admissible behind files on which these do not depend in turn is
well-formed. -/
theorem FileWellFormed.of_admissible (hkeyed : files.Keyed)
    (hdone : ∀ g ∈ done, g ∈ files.values) (hf : f ∈ files.values) (hnew : f ∉ done)
    (hclosed : ∀ g ∈ done, ∀ g', files.Imports g g' → g' ∈ done)
    (himports : ∀ path ∈ f.imports, ∃ g ∈ done, files.get? path = some g)
    (hcovers : files.Covers f deps)
    (hadmissible : ∀ before rule after, f.rules = before ++ rule :: after →
      Admissible registry config given (done.flatMap RuleFile.added ++ before.map (f.path, ·))
        f.path deps rule) : files.FileWellFormed registry config f := by
  have hsplit {rule : Rule} (hrule : rule ∈ f.rules) := List.append_of_mem hrule
  refine ⟨fun path hpath => ?_, fun hcycle => ?_, fun r hr => ?_, fun r hr => ?_, ?_⟩
  · obtain ⟨g, -, hget⟩ := himports path hpath
    exact ⟨g, hget⟩
  · -- what the file imports is closed under imports, and the file is not there
    obtain ⟨g, hg, hback⟩ := Relation.TransGen.head'_iff.mp hcycle
    have hstays {g' : RuleFile} (h : Relation.ReflTransGen files.Imports g g') : g' ∈ done := by
      induction h with
      | refl => exact mem_of_imports himports hg
      | tail _ himports ih => exact hclosed _ ih _ himports
    exact hnew (hstays hback)
  · obtain ⟨before, after, hr⟩ := hsplit hr
    exact (hadmissible before r after hr).named
  · obtain ⟨before, after, hr⟩ := hsplit hr
    exact (hadmissible before r after hr).constructible
  · intro before r after hr name hcall
    obtain ⟨⟨path, callee⟩, hmem, hname, hproducer, hvisible⟩ :=
      (hadmissible before r after hr).calls name hcall
    refine ⟨callee, hname, hproducer, ?_⟩
    rcases List.mem_append.mp hmem with hmem | hmem
    · obtain ⟨g, hg, rfl, hcallee⟩ := mem_flatMap_added.mp hmem
      rcases hvisible with hsame | hvisible
      · exact absurd (hkeyed.eq_of_same (hdone g hg) hf hsame ▸ hg) hnew
      · exact .inr ⟨g, (hkeyed.hasPath_of_covers (hdone g hg) hcovers).mp hvisible, hcallee⟩
    · obtain ⟨r', hr', heq⟩ := List.mem_map.mp hmem
      cases heq
      exact .inl hr'

end ParsedFiles
end RuleGraph
