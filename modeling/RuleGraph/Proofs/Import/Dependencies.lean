import Mathlib
import RuleGraph.Proofs.Path.NormalForm
import RuleGraph.Rules.Resolve

/-!
# What rule files depend on

A source yields the parsed file at a key, and a file there imports what its lines name. Entries
can be resolved when all that they reach is there, parses, and imports itself on no way. Where
they cannot, an error blames what stands in the way.
-/
namespace RuleGraph

/-- What is told when a file has been read and parsed. -/
def RuleFile.told (f : RuleFile) : Event := .parsed f.path f.rules.length f.imports.length

/-- A parsed file has the path it was read under and the targets of its import lines, in order. -/
theorem RuleFile.of_parse {path : Path} {text : String} {f : RuleFile}
    (h : RuleFile.parse path text = .ok f) : f.path = path ∧
      ∃ targets, Import.scan text = .ok targets ∧ f.imports = targets.map (Import.resolve path) := by
  unfold RuleFile.parse at h
  obtain ⟨targets, hscan, h⟩ := Parser.bind_eq_ok h
  obtain ⟨tokens, -, h⟩ := Parser.bind_eq_ok h
  obtain ⟨rules, -, h⟩ := Parser.bind_eq_ok h
  cases h
  exact ⟨rfl, targets, hscan, rfl⟩

namespace Source

variable (source : Source) {source' : Source} {entries : List Path} {p q : Path} {f g : RuleFile}

/-- The text at a key is there and parses to the file, the imports of which lead to keys. -/
def Yields (p : Path) (f : RuleFile) : Prop :=
  ∃ text parsed, source.read p = .ok text ∧ RuleFile.parse p text = .ok parsed ∧
    f = { parsed with imports := parsed.imports.map source.key }

/-- The file at one key imports the one at another. -/
def Imports (p q : Path) : Prop := ∃ f, source.Yields p f ∧ q ∈ f.imports

/-- The keys of the entries, and all that is imported from there on. -/
def Reaches (entries : List Path) (q : Path) : Prop :=
  ∃ e ∈ entries, Relation.ReflTransGen source.Imports (source.key e) q

/-- Nothing that the entries reach stands in the way. -/
structure Resolvable (entries : List Path) : Prop where
  yields : ∀ p, source.Reaches entries p → ∃ f, source.Yields p f
  cycleFree : ∀ p, source.Reaches entries p → ¬ Relation.TransGen source.Imports p p

/-- An error tells of something that stands in the way. -/
inductive Blames (entries : List Path) : ParseError → Prop
  | badSyntax {p : Path} {text : String} {e : SyntaxError} (reached : source.Reaches entries p)
      (read : source.read p = .ok text) (parse : RuleFile.parse p text = .error e) :
      Blames entries (.badSyntax p e)
  | cyclicDependency {p : Path} (reached : source.Reaches entries p)
      (cycle : Relation.TransGen source.Imports p p) : Blames entries (.cyclicDependency p)
  | missingImport {p q : Path} {cause : ReadFailure} (reached : source.Reaches entries p)
      (imports : source.Imports p q) (read : source.read q = .error cause) :
      Blames entries (.missingImport p q cause)
  | unreadable {e : Path} {cause : ReadFailure} (entry : e ∈ entries)
      (read : source.read (source.key e) = .error cause) :
      Blames entries (.unreadable (source.key e) cause)

/-- What holds of a place that rule texts are read from: keys are keys of themselves, and there is
one spelling of each; texts lie under as many keys as the size says, or fewer. -/
structure Lawful : Prop where
  key_key : ∀ p, source.key (source.key p) = source.key p
  key_eq_of_same : ∀ p q, (source.key p).same (source.key q) = true → source.key p = source.key q
  length_le : ∀ keys : List Path, keys.Nodup →
    (∀ p ∈ keys, source.key p = p ∧ ∃ text, source.read p = .ok text) → keys.length ≤ source.size

theorem key_ofFiles (files : List (Path × String)) : (ofFiles files).key = Path.normalize := rfl

/-- Rule files held in memory are such a place. -/
theorem lawful_ofFiles (files : List (Path × String)) : (ofFiles files).Lawful where
  key_key p := by rw [key_ofFiles, Path.normalize_normalize]
  key_eq_of_same p q h := by
    rw [key_ofFiles] at h ⊢
    exact Path.normalize_eq_of_same h
  length_le keys hnodup hkeys := by
    have hsub : keys ⊆ files.map fun f => f.1.normalize := by
      intro p hp
      obtain ⟨hkey, text, hread⟩ := hkeys p hp
      simp only [ofFiles, lookup] at hread
      split at hread
      · rename_i f hfind
        have hf := List.mem_reverse.mp (List.mem_of_find?_eq_some hfind)
        have hpath : f.1.normalize = p.normalize := by simpa using List.find?_some hfind
        exact List.mem_map.mpr ⟨f, hf, hpath.trans hkey⟩
      · cases hread
    simpa [ofFiles] using (hnodup.subperm hsub).length_le

variable {source}

theorem Yields.path_eq (h : source.Yields p f) : f.path = p := by
  obtain ⟨text, parsed, -, hparse, rfl⟩ := h
  exact (RuleFile.of_parse hparse).1

theorem Yields.unique (h : source.Yields p f) (h' : source.Yields p g) : f = g := by
  obtain ⟨text, parsed, hread, hparse, rfl⟩ := h
  obtain ⟨text', parsed', hread', hparse', rfl⟩ := h'
  obtain rfl := Except.ok.inj (hread.symm.trans hread')
  obtain rfl := Except.ok.inj (hparse.symm.trans hparse')
  rfl

theorem Yields.imports_iff (h : source.Yields p f) : source.Imports p q ↔ q ∈ f.imports :=
  ⟨fun ⟨_, hg, hq⟩ => h.unique hg ▸ hq, fun hq => ⟨f, h, hq⟩⟩

/-- Imports are keys. -/
theorem Yields.exists_key (h : source.Yields p f) (hq : q ∈ f.imports) :
    ∃ t, source.key t = q := by
  obtain ⟨text, parsed, -, -, rfl⟩ := h
  obtain ⟨t, -, rfl⟩ := List.mem_map.mp hq
  exact ⟨t, rfl⟩

/-- The imports that are written, each led to its key. -/
theorem Yields.exists_targets (h : source.Yields p f) :
    ∃ text targets, source.read p = .ok text ∧ Import.scan text = .ok targets ∧
      f.imports = targets.map fun t => source.key (Import.resolve p t) := by
  obtain ⟨text, parsed, hread, hparse, rfl⟩ := h
  obtain ⟨-, targets, hscan, himports⟩ := RuleFile.of_parse hparse
  exact ⟨text, targets, hread, hscan, by simp [himports, Function.comp_def]⟩

theorem Reaches.entry (h : p ∈ entries) : source.Reaches entries (source.key p) :=
  ⟨p, h, .refl⟩

theorem Reaches.tail (h : source.Reaches entries p) (hq : source.Imports p q) :
    source.Reaches entries q := by
  obtain ⟨e, he, hreach⟩ := h
  exact ⟨e, he, hreach.tail hq⟩

theorem reaches_congr {entries' : List Path}
    (h : ∀ p, p ∈ entries.map source.key ↔ p ∈ entries'.map source.key) :
    source.Reaches entries q ↔ source.Reaches entries' q := by
  have hmono {entries entries' : List Path}
      (h : ∀ p, p ∈ entries.map source.key → p ∈ entries'.map source.key)
      (hq : source.Reaches entries q) : source.Reaches entries' q := by
    obtain ⟨e, he, hreach⟩ := hq
    obtain ⟨e', he', hkey⟩ := List.mem_map.mp (h _ (List.mem_map_of_mem he))
    exact ⟨e', he', hkey ▸ hreach⟩
  exact ⟨hmono fun p => (h p).mp, hmono fun p => (h p).mpr⟩

theorem Blames.not_resolvable {e : ParseError} (h : source.Blames entries e) :
    ¬ source.Resolvable entries := by
  intro hall
  have hread {p : Path} {cause : ReadFailure} (hreached : source.Reaches entries p)
      (hcause : source.read p = .error cause) : False := by
    obtain ⟨f, text, parsed, htext, -⟩ := hall.yields p hreached
    cases hcause.symm.trans htext
  cases h with
  | badSyntax reached read parse =>
    obtain ⟨f, text, parsed, htext, hparsed, -⟩ := hall.yields _ reached
    cases read.symm.trans htext
    cases parse.symm.trans hparsed
  | cyclicDependency reached cycle => exact hall.cycleFree _ reached cycle
  | missingImport reached imports read => exact hread (reached.tail imports) read
  | unreadable entry read => exact hread (.entry entry) read

/-! ### Loading a file -/

theorem load_eq_ok_iff {importer : Option Path} :
    source.load importer p = .ok f ↔ source.Yields p f := by
  constructor
  · intro h
    unfold load at h
    split at h
    · split at h <;> cases h
    · rename_i text hread
      split at h
      · cases h
      · rename_i parsed hparse
        cases h
        exact ⟨text, parsed, hread, hparse, rfl⟩
  · rintro ⟨text, parsed, hread, hparse, rfl⟩
    simp only [load, hread, hparse]

theorem load_eq_error {importer : Option Path} {e : ParseError}
    (h : source.load importer p = .error e) :
    (∃ text fault, source.read p = .ok text ∧ RuleFile.parse p text = .error fault ∧
        e = .badSyntax p fault) ∨
      ∃ cause, source.read p = .error cause ∧
        ((importer = none ∧ e = .unreadable p cause) ∨
          ∃ file, importer = some file ∧ e = .missingImport file p cause) := by
  unfold load at h
  split at h
  · rename_i cause hread
    split at h
    · rename_i file
      cases h
      exact .inr ⟨cause, hread, .inr ⟨file, rfl, rfl⟩⟩
    · cases h
      exact .inr ⟨cause, hread, .inl ⟨rfl, rfl⟩⟩
  · rename_i text hread
    split at h
    · rename_i fault hparse
      cases h
      exact .inl ⟨text, fault, hread, hparse, rfl⟩
    · cases h

end Source
end RuleGraph
