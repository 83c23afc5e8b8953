import RuleGraph.Proofs.Graph.Atomicity
import RuleGraph.Proofs.Graph.Attempts
import RuleGraph.Proofs.Graph.Linking
import RuleGraph.Proofs.Import.Resolution
import RuleGraph.Proofs.Program.Acceptance
import RuleGraph.Proofs.Rules.Reading

/-!
# Errors are found in rules

Files that were resolved have all that they import, and import nothing that leads back to them. So
compiling them goes wrong for nothing but a rule, be it that a thread is refused for one of its
wires. The error names that rule and the file it stands in, which may lie deep below the file that
was to be compiled.
-/
namespace RuleGraph

/-- An error that a rule has in itself, or that comes up when its wires are connected: neither one
of files, nor one found in another rule, nor one of a bus that was shut down. -/
def GraphError.OfRule : GraphError → Prop
  | .cyclicDependency _ | .missingDependency .. | .closedBus _ | .inRule .. => False
  | _ => True

theorem GraphError.OfRule.root_eq {e : GraphError} (h : e.OfRule) : e.root = e := by
  cases e <;> first | rfl | exact absurd h (by simp [OfRule])

namespace ParsedFiles

/-- Files that are there with all that they import, on no cycle. -/
structure Resolved (files : ParsedFiles) : Prop where
  keyed : files.Keyed
  path_eq : ∀ e ∈ files, e.1 = e.2.path
  imports : ∀ f ∈ files.values, ∀ path ∈ f.imports, ∃ g, files.get? path = some g
  cycleFree : ∀ f ∈ files.values, ¬ files.DependsOn f f

/-- The error is in a rule of one of the files, and names both. -/
def Blames (files : ParsedFiles) (e : GraphError) : Prop :=
  ∃ f rule cause, (f.path, f) ∈ files ∧ rule ∈ f.rules ∧ e = .inRule f.path rule.name cause ∧
    cause.OfRule

variable {files : ParsedFiles} {f : RuleFile}

theorem Resolved.mem (h : files.Resolved) (hf : f ∈ files.values) : (f.path, f) ∈ files := by
  obtain ⟨⟨p, g⟩, hmem, rfl⟩ := List.mem_map.mp hf
  obtain rfl : p = g.path := h.path_eq _ hmem
  exact hmem

end ParsedFiles

/-- What was resolved is resolved in the sense of the compiler, which knows files by their paths. -/
theorem Source.resolved_of_resolve {source : Source} (hlawful : source.Lawful)
    {entries : List Path} {files : ParsedFiles} (h : source.resolve entries = .ok files) :
    files.Resolved := by
  obtain ⟨r, -, rfl, hr, -⟩ := exists_of_resolve hlawful h
  have hkeyed : r.files.Keyed := by
    refine ⟨fun e he => hr.keyed e he ▸ Path.same_refl e.1, hr.sorted.imp fun {e e'} hlt => ?_⟩
    rw [Bool.eq_false_iff, Ne, Path.same_iff_place_eq]
    exact hlt.ne
  have hget {p : Path} (hp : r.mark? p = some .done) :
      ∃ g, r.files.get? p = some g ∧ g.path = p := by
    obtain ⟨g, hg, rfl⟩ := (hr.done p).mp hp
    exact ⟨g, hkeyed.get?_of_same hg (Path.same_refl g.path), rfl⟩
  have himports {f g : RuleFile} (hf : f ∈ r.files.values) (hg : r.files.Imports f g) :
      source.Imports f.path g.path := by
    obtain ⟨q, hq, hfound⟩ := hg
    obtain ⟨g', hg', rfl⟩ := hget (hr.closed f hf q hq)
    obtain rfl := Option.some.inj (hfound.symm.trans hg')
    exact (hr.yields f hf).imports_iff.mpr hq
  refine ⟨hkeyed, hr.keyed, fun f hf q hq => ?_, fun f hf hcycle => hr.cycleFree f hf ?_⟩
  · obtain ⟨g, hg, -⟩ := hget (hr.closed f hf q hq)
    exact ⟨g, hg⟩
  · have hdepends {f g : RuleFile} (hf : f ∈ r.files.values) (h : r.files.DependsOn f g) :
        Relation.TransGen source.Imports f.path g.path := by
      induction h with
      | single hg => exact .single (himports hf hg)
      | tail hrest hg ih => exact ih.tail (himports (hkeyed.mem_of_dependsOn hrest) hg)
    exact hdepends hf hcycle

namespace Ruleset

open ParsedFiles (Resolved)

/-- A step on a ruleset goes well, keeping the bus open and the files in progress, or the error is
in a rule of one of the files. -/
inductive Proceeds {α : Type} (files : ParsedFiles) (inProgress : List Path) : Outcome α → Prop
  | done {a : α} {rs : Ruleset} (progress : rs.inProgress = inProgress)
      (isOpen : rs.bus.closed = false) : Proceeds files inProgress (.ok a, rs)
  | blamed {e : GraphError} {rs : Ruleset} (blames : files.Blames e) :
      Proceeds files inProgress (.error e, rs)

variable {rs : Ruleset} {files : ParsedFiles} {f : RuleFile} {inProgress deps : List Path}
  {rule : Rule} {compile : RuleFile → Ruleset → Outcome (List Path)}

theorem Refuses.ofRule {file : Path} {cause : GraphError} (h : rs.Refuses file rule deps cause)
    (hopen : rs.bus.closed = false) : cause.OfRule := by
  cases h with
  | unnamed => trivial
  | duplicate => trivial
  | cycle => trivial
  | closed made mem shut => simp [hopen] at shut
  | fault fault =>
    cases fault with
    | unknown => trivial
    | rejected => trivial
    | link fault => cases fault <;> trivial

theorem ofRule_ofRefusal {topic : Topic} {refusal : Refusal}
    (h : refusal ≠ .closed) : (GraphError.ofRefusal topic refusal).OfRule := by
  cases refusal with
  | closed => exact absurd rfl h
  | noThread => trivial
  | badName => trivial

theorem isOpen_addRule (hopen : rs.bus.closed = false) (file : Path) (rule : Rule)
    (deps : List Path) : (rs.addRule file rule deps).2.bus.closed = false := by
  rcases addRule_cases rs file rule deps with
    ⟨e, made, -, heq⟩ | ⟨t, s, rs', result, hlays, -, heq⟩
  · rw [heq]
    exact hopen
  · have hused : (rs.use s).bus.closed = false := hopen
    have hconnected := isOpen_connect hused t.wires
    rw [hlays.connected] at hconnected
    rw [heq]
    exact hconnected

theorem addRule_proceeds (hresolved : files.Resolved) (hf : f ∈ files.values)
    (hrule : rule ∈ f.rules) (hopen : rs.bus.closed = false) :
    Proceeds files rs.inProgress (rs.addRule f.path rule deps) := by
  have hstillOpen := isOpen_addRule hopen f.path rule deps
  rcases addRule_outcome rs f.path rule deps with
    ⟨cause, rs', heq, hrefuses, -⟩ | ⟨flow, wires, s, rs', heq, -, hextends⟩ |
    ⟨flow, before, w, after, s, refusal, rs', heq, -, hleftOpen, hrefused, -⟩
  · rw [heq]
    exact .blamed ⟨f, rule, cause, hresolved.mem hf, hrule, rfl, hrefuses.ofRule hopen⟩
  · rw [heq] at hstillOpen ⊢
    exact .done hextends.inProgress hstillOpen
  · rw [heq]
    exact .blamed ⟨f, rule, _, hresolved.mem hf, hrule, rfl,
      ofRule_ofRefusal (subscribe_ne_closed hleftOpen hrefused)⟩

theorem addRules_proceeds (hresolved : files.Resolved) (hf : f ∈ files.values)
    {rules : List Rule} (hrules : ∀ r ∈ rules, r ∈ f.rules) (hopen : rs.bus.closed = false) :
    Proceeds files rs.inProgress (rs.addRules f.path deps rules) := by
  induction rules generalizing rs with
  | nil => exact .done rfl hopen
  | cons rule rest ih =>
    have hadd : Proceeds files rs.inProgress (rs.addRule f.path rule deps) :=
      addRule_proceeds hresolved hf (hrules rule List.mem_cons_self) hopen
    rw [addRules]
    generalize rs.addRule f.path rule deps = outcome at hadd
    cases hadd with
    | done progress isOpen =>
      exact progress ▸ ih (fun r hr => hrules r (List.mem_cons_of_mem _ hr)) isOpen
    | blamed blames => exact .blamed blames

theorem compileImports_proceeds (hresolved : files.Resolved) (hf : f ∈ files.values)
    (hcompile : ∀ g, files.Imports f g → ∀ rs : Ruleset, rs.inProgress = inProgress →
      rs.bus.closed = false → Proceeds files inProgress (compile g rs))
    {paths : List Path} (hpaths : ∀ path ∈ paths, path ∈ f.imports)
    (hprogress : rs.inProgress = inProgress) (hopen : rs.bus.closed = false) :
    Proceeds files inProgress (compileImports compile files f.path deps paths rs) := by
  induction paths generalizing rs deps with
  | nil => exact .done hprogress hopen
  | cons path paths ih =>
    have hpath := hpaths path List.mem_cons_self
    obtain ⟨g, hget⟩ := hresolved.imports f hf path hpath
    have hstep := hcompile g ⟨path, hpath, hget⟩ rs hprogress hopen
    simp only [compileImports, hget]
    generalize compile g rs = outcome at hstep
    cases hstep with
    | done progress isOpen =>
      exact ih (fun path hpath => hpaths path (List.mem_cons_of_mem _ hpath)) progress isOpen
    | blamed blames => exact .blamed blames

theorem compileBody_proceeds (hresolved : files.Resolved) (hf : f ∈ files.values)
    (hcompile : ∀ g, files.Imports f g → ∀ rs : Ruleset, rs.inProgress = inProgress →
      rs.bus.closed = false → Proceeds files inProgress (compile g rs))
    (hprogress : rs.inProgress = inProgress) (hopen : rs.bus.closed = false) :
    Proceeds files inProgress (compileBody compile files f rs) := by
  have himports : Proceeds files inProgress (compileImports compile files f.path [] f.imports rs) :=
    compileImports_proceeds hresolved hf hcompile (fun _ => id) hprogress hopen
  rw [compileBody]
  generalize compileImports compile files f.path [] f.imports rs = outcome at himports
  cases himports with
  | blamed blames => exact .blamed blames
  | @done deps rs₁ progress isOpen =>
    have hnoted : (rs₁.note (.compiling f.path f.rules.length deps.length)).bus.closed = false :=
      isOpen
    have hrules : Proceeds files rs₁.inProgress
        ((rs₁.note (.compiling f.path f.rules.length deps.length)).addRules f.path deps f.rules) :=
      addRules_proceeds hresolved hf (fun _ => id) hnoted
    dsimp only
    generalize Ruleset.addRules _ f.path deps f.rules = outcome at hrules
    cases hrules with
    | done progress' isOpen' => exact .done (progress'.trans progress) isOpen'
    | blamed blames => exact .blamed blames

/-- Files in progress lead to the file that is compiled, so that it is none of them; and they are
different, so that their number never uses up the bound on a chain of imports. -/
theorem compileWithin_proceeds (hresolved : files.Resolved) (depth : Nat) (stack : List RuleFile)
    (hf : f ∈ files.values) (hprogress : rs.inProgress = stack.map RuleFile.path)
    (hstack : files.Pending stack f) (hdepth : files.length < depth + stack.length)
    (hopen : rs.bus.closed = false) :
    Proceeds files rs.inProgress (compileWithin files depth f rs) := by
  induction depth generalizing f rs stack with
  | zero =>
    have hle := hstack.length_le
    omega
  | succ depth ih =>
    have hfstack : f ∉ stack := fun hmem => hresolved.cycleFree f hf (hstack.leads f hmem)
    have hother : hasPath rs.inProgress f.path = false := by
      rw [Bool.eq_false_iff, hprogress, Ne, hresolved.keyed.hasPath_map_path_iff hstack.mem hf]
      exact hfstack
    have hcompile : ∀ g, files.Imports f g → ∀ rs' : Ruleset,
        rs'.inProgress = f.path :: rs.inProgress → rs'.bus.closed = false →
        Proceeds files (f.path :: rs.inProgress) (compileWithin files depth g rs') := by
      intro g hg rs' hprogress' hopen'
      rw [← hprogress']
      exact ih (f :: stack) (hresolved.keyed.mem_of_dependsOn (.single hg))
        (by rw [hprogress', hprogress, List.map_cons]) (hstack.push hf hfstack hg)
        (by rw [List.length_cons]; omega) hopen'
    have hbody : Proceeds files (f.path :: rs.inProgress)
        (compileBody (compileWithin files depth) files f (rs.enter f.path)) :=
      compileBody_proceeds hresolved hf hcompile rfl hopen
    rw [compileWithin]
    cases hknown : rs.dependencies? f.path with
    | some deps => exact .done rfl hopen
    | none =>
      simp only [hother, Bool.false_eq_true, if_false]
      generalize compileBody (compileWithin files depth) files f (rs.enter f.path) = outcome
        at hbody
      cases hbody with
      | done progress isOpen => exact .done (inProgress_leave progress hother) isOpen
      | blamed blames => exact .blamed blames

theorem compileEach_proceeds (hresolved : files.Resolved) {order : List RuleFile}
    (horder : ∀ f ∈ order, f ∈ files.values) (hprogress : rs.inProgress = [])
    (hopen : rs.bus.closed = false) : Proceeds files [] (rs.compileEach files order) := by
  induction order generalizing rs with
  | nil => exact .done hprogress hopen
  | cons f order ih =>
    have hfile := compileWithin_proceeds hresolved (files.length + 2) []
      (horder f List.mem_cons_self) hprogress (ParsedFiles.pending_nil files f) (by simp) hopen
    rw [compileEach, compile]
    generalize compileWithin files (files.length + 2) f rs = outcome at hfile
    cases hfile with
    | done progress isOpen =>
      exact ih (fun g hg => horder g (List.mem_cons_of_mem _ hg)) (progress.trans hprogress) isOpen
    | blamed blames => exact .blamed blames

/-- Files held in memory that were resolved are compiled, or a rule of one of them is to blame,
however many threads there are: the error names the rule and its own file, and tells nothing of
imports. Building a rule never finds a chain without nodes, nor a called rule that begins with no
filter. -/
theorem compileAll_blames_rule (contents : List (Path × String)) (entries : List Path)
    (files : ParsedFiles) (hresolve : (Source.ofFiles contents).resolve entries = .ok files)
    (registry : Registry) (config : Config) (given : Threads) :
    (∀ e rs, (newWith registry config given).compileAll files = (.error e, rs) →
      ∃ f rule cause, (f.path, f) ∈ files ∧ rule ∈ f.rules ∧
        e = .inRule f.path rule.name cause ∧ e.root = cause ∧ cause.OfRule) ∧
      ∀ (rs : Ruleset) (file : Path) (deps : List Path) (rule : Rule),
        (rs.workshop file deps).linkRule rule rs.supply =
          ((((rs.workshop file deps).buildRule rule rs.supply).1.map fun built =>
              LinkedRule.ofFlow built.1 built.2).mapError .unbuilt,
            ((rs.workshop file deps).buildRule rule rs.supply).2) := by
  refine ⟨fun e rs herror => ?_, fun rs file deps rule => Workshop.linkRule_eq _ rule _⟩
  have hresolved := Source.resolved_of_resolve (Source.lawful_ofFiles contents) hresolve
  have hall : Proceeds files [] ((newWith registry config given).compileAll files) :=
    compileEach_proceeds hresolved (fun _ => id) rfl rfl
  rw [herror] at hall
  cases hall with
  | blamed blames =>
    obtain ⟨f, rule, cause, hf, hrule, rfl, hcause⟩ := blames
    exact ⟨f, rule, cause, hf, hrule, rfl, hcause.root_eq, hcause⟩

/-- A rule of an imported file is to blame while the file that imports it is compiled. -/
theorem compileAll_blames_rule_below :
    let contents : List (Path × String) := [(⟨"a"⟩, "#import \"b\"\n"), (⟨"b"⟩, "t => f();")]
    ∃ files, (Source.ofFiles contents).resolve [⟨"a"⟩] = .ok files ∧ ∃ e rs,
      (newWith .empty .empty .ample).compileAll files = (.error e, rs) ∧
        e = .inRule ⟨"b"⟩ "t" (.unknownFilter "f") ∧ ∃ f rule cause, (f.path, f) ∈ files ∧
          rule ∈ f.rules ∧ e = .inRule f.path rule.name cause ∧ e.root = cause ∧ cause.OfRule := by
  intro contents
  let d : Grammar.File := ⟨[⟨⟨"t", ⟨1, 1⟩⟩, ⟨1, 3⟩,
    .node (.last (.filter none ⟨"f", ⟨1, 6⟩⟩ ⟨1, 7⟩ none ⟨1, 8⟩)), ⟨1, 9⟩⟩], ⟨1, 10⟩⟩
  have hscan : Import.scan "t => f();" = .ok [] := by cbv
  have htokens : tokenize "t => f();" = .ok d.tokens := by cbv
  have hparse : RuleFile.parse ⟨"b"⟩ "t => f();" = .ok ⟨⟨"b"⟩, [], d.toRules⟩ :=
    Parser.bind_eq_ok_iff.mpr ⟨_, hscan, Parser.bind_eq_ok_iff.mpr ⟨_, htokens,
      Parser.bind_eq_ok_iff.mpr ⟨_, Parser.file_tokens d, rfl⟩⟩⟩
  have hb : (Source.ofFiles contents).load (some ⟨"a"⟩) ⟨"b"⟩ = .ok ⟨⟨"b"⟩, [], d.toRules⟩ :=
    Source.load_eq_ok_iff.mpr ⟨"t => f();", _, by cbv, hparse, rfl⟩
  have ha : (Source.ofFiles contents).load none ⟨"a"⟩ = .ok ⟨⟨"a"⟩, [⟨"b"⟩], []⟩ := by cbv
  let files : ParsedFiles :=
    [(⟨"a"⟩, ⟨⟨"a"⟩, [⟨"b"⟩], []⟩), (⟨"b"⟩, ⟨⟨"b"⟩, [], d.toRules⟩)]
  have hresolve : (Source.ofFiles contents).resolve [⟨"a"⟩] = .ok files := by
    have hkey : (Source.ofFiles contents).key ⟨"a"⟩ = ⟨"a"⟩ := by cbv
    have hsize : (Source.ofFiles contents).size = 2 := rfl
    have hempty (p : Path) : Resolution.empty.mark? p = none := rfl
    have hinsert (f g : RuleFile) : ParsedFiles.insert ⟨"a"⟩ f (ParsedFiles.insert ⟨"b"⟩ g []) =
        [(⟨"a"⟩, f), (⟨"b"⟩, g)] := by
      have hother : Path.same ⟨"a"⟩ ⟨"b"⟩ = false := by decide
      have hbefore : Path.before ⟨"a"⟩ ⟨"b"⟩ = true := by decide
      simp [ParsedFiles.insert, hother, hbefore]
    simp [Source.resolve, Source.resolution, Source.visitEach, Source.visit, hkey, hsize, ha, hb,
      hempty]
    exact hinsert _ _
  have herror : ((newWith .empty .empty .ample).compileAll files).1 =
      .error (.inRule ⟨"b"⟩ "t" (.unknownFilter "f")) := by
    simp only [files, d]
    cbv
  have hcompile : (newWith .empty .empty .ample).compileAll files =
      (.error (.inRule ⟨"b"⟩ "t" (.unknownFilter "f")),
        ((newWith .empty .empty .ample).compileAll files).2) := Prod.ext herror rfl
  exact ⟨files, hresolve, _, _, hcompile, rfl,
    (compileAll_blames_rule contents _ files hresolve .empty .empty .ample).1 _ _ hcompile⟩

end Ruleset
end RuleGraph
