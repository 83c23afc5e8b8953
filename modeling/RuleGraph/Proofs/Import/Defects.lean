import RuleGraph.Proofs.Import.Resolution

/-!
# Errors of resolution tell what is so

A resolution ends at the first thing that stands in its way, which may be found deep below an entry.
What the error names is there, all the same: the cycle, the import with nothing behind it, the entry
that is missing, or the text that cannot be parsed.
-/
namespace RuleGraph.Source

open Relation

variable {source : Source} {contents : List (Path × String)} {entries : List Path} {p q : Path}
  {cause : ReadFailure} {e : ParseError}

/-- Files held in memory have no text at a path just when none of them was put there, in whatever
spelling. -/
theorem read_ofFiles_eq_error_iff :
    (ofFiles contents).read p = .error cause ↔
      cause = .absent p ∧ ∀ c ∈ contents, c.1.normalize ≠ p.normalize := by
  have hread : (ofFiles contents).read p = lookup contents p := rfl
  rw [hread, lookup]
  cases hfind : contents.reverse.find? fun c => c.1.normalize = p.normalize with
  | none =>
    have habsent : ∀ c ∈ contents, c.1.normalize ≠ p.normalize := by simpa using hfind
    simp only [Except.error.injEq, eq_comm (a := cause)]
    exact (and_iff_left habsent).symm
  | some c =>
    have hc : c ∈ contents := List.mem_reverse.mp (List.mem_of_find?_eq_some hfind)
    have hpath : c.1.normalize = p.normalize := by simpa using List.find?_some hfind
    simp only [reduceCtorEq, false_iff]
    exact fun h => h.2 c hc hpath

/-- A key of files held in memory is missing when none of them was put there. -/
theorem absent_of_read (hkey : p.normalize = p) (h : (ofFiles contents).read p = .error cause) :
    cause = .absent p ∧ ∀ c ∈ contents, c.1.normalize ≠ p := by
  rw [read_ofFiles_eq_error_iff, hkey] at h
  exact h

/-- A file that imports another has a line for it, which leads to the other's key. -/
theorem Imports.exists_target (h : source.Imports p q) :
    ∃ text file targets target, source.read p = .ok text ∧ RuleFile.parse p text = .ok file ∧
      Import.scan text = .ok targets ∧ target ∈ targets ∧
      source.key (Import.resolve p target) = q := by
  obtain ⟨_, ⟨text, file, hread, hparse, rfl⟩, hq⟩ := h
  obtain ⟨-, targets, hscan, himports⟩ := RuleFile.of_parse hparse
  obtain ⟨path, hpath, rfl⟩ := List.mem_map.mp hq
  rw [himports] at hpath
  obtain ⟨target, htarget, rfl⟩ := List.mem_map.mp hpath
  exact ⟨text, file, targets, target, hread, hparse, hscan, htarget, rfl⟩

theorem blames_of_resolve (hlawful : source.Lawful) (h : source.resolve entries = .error e) :
    source.Blames entries e := by
  obtain ⟨r, hresolution, -⟩ | ⟨e', r, hresolution, hblames⟩ := resolution_cases hlawful entries
  · simp [resolve, hresolution] at h
  · rw [resolve, hresolution] at h
    exact Except.error.inj h ▸ hblames

/-- Where rule files held in memory cannot be resolved, the error tells what is so: of a file that
the entries reach, that it imports itself, directly or not, that a line of it leads to a key at
which there is no file, or that its text has the very fault; or of the key of an entry, that there
is no file. -/
theorem resolve_blames_defect (contents : List (Path × String)) (entries : List Path)
    (e : ParseError) (h : (ofFiles contents).resolve entries = .error e) :
    let source := ofFiles contents
    match e with
    | .cyclicDependency p => source.Reaches entries p ∧ TransGen source.Imports p p
    | .missingImport p q cause =>
      source.Reaches entries p ∧
        (∃ text file targets target, source.read p = .ok text ∧ RuleFile.parse p text = .ok file ∧
          Import.scan text = .ok targets ∧ target ∈ targets ∧
          (Import.resolve p target).normalize = q) ∧
        cause = .absent q ∧ ∀ c ∈ contents, c.1.normalize ≠ q
    | .unreadable p cause =>
      (∃ entry ∈ entries, entry.normalize = p) ∧
        cause = .absent p ∧ ∀ c ∈ contents, c.1.normalize ≠ p
    | .badSyntax p fault =>
      source.Reaches entries p ∧
        ∃ text, source.read p = .ok text ∧ RuleFile.parse p text = .error fault := by
  intro source
  have hblames : source.Blames entries e := blames_of_resolve (lawful_ofFiles contents) h
  cases hblames with
  | cyclicDependency reached cycle => exact ⟨reached, cycle⟩
  | @missingImport p q cause reached imports read =>
    have htarget := imports.exists_target
    have hkey : q.normalize = q := by
      obtain ⟨-, -, -, target, -, -, -, -, rfl⟩ := htarget
      exact Path.normalize_normalize _
    exact ⟨reached, htarget, absent_of_read hkey read⟩
  | @unreadable entry cause mem read =>
    exact ⟨⟨entry, mem, rfl⟩, absent_of_read (Path.normalize_normalize entry) read⟩
  | badSyntax reached read parse => exact ⟨reached, _, read, parse⟩

/-- Below a file that reads well, one that imports what is missing, two that import each other, and
one with a fault. -/
theorem resolve_blames_defect_below :
    let contents : List (Path × String) :=
      [(⟨"a"⟩, "#import \"d/b\"\n"), (⟨"d/b"⟩, "#import \"../c\"\n#import \"gone\"\n"), (⟨"c"⟩, ""),
        (⟨"l"⟩, "#import \"m\"\n"), (⟨"m"⟩, "#import \"c\"\n#import \"./m\"\n"),
        (⟨"f"⟩, "#import \"g\"\n"), (⟨"g"⟩, "$")]
    let source := ofFiles contents
    let fault : SyntaxError := ⟨⟨1, 1⟩, .unexpectedCharacter '$', []⟩
    source.resolve [⟨"a"⟩] = .error (.missingImport ⟨"d/b"⟩ ⟨"d/gone"⟩ (.absent ⟨"d/gone"⟩)) ∧
      source.Reaches [⟨"a"⟩] ⟨"d/b"⟩ ∧
      source.resolve [⟨"l"⟩] = .error (.cyclicDependency ⟨"m"⟩) ∧
      TransGen source.Imports ⟨"m"⟩ ⟨"m"⟩ ∧
      source.resolve [⟨"c"⟩, ⟨"./f"⟩] = .error (.badSyntax ⟨"g"⟩ fault) ∧
      source.Reaches [⟨"c"⟩, ⟨"./f"⟩] ⟨"g"⟩ ∧
      source.resolve [⟨"c"⟩, ⟨"x/../h"⟩] = .error (.unreadable ⟨"h"⟩ (.absent ⟨"h"⟩)) ∧
      ∀ c ∈ contents, c.1.normalize ≠ ⟨"h"⟩ := by
  intro contents source fault
  have hmissing : source.resolve [⟨"a"⟩] =
      .error (.missingImport ⟨"d/b"⟩ ⟨"d/gone"⟩ (.absent ⟨"d/gone"⟩)) := by cbv
  have hcycle : source.resolve [⟨"l"⟩] = .error (.cyclicDependency ⟨"m"⟩) := by cbv
  have hfault : source.resolve [⟨"c"⟩, ⟨"./f"⟩] = .error (.badSyntax ⟨"g"⟩ fault) := by cbv
  have hentry : source.resolve [⟨"c"⟩, ⟨"x/../h"⟩] =
      .error (.unreadable ⟨"h"⟩ (.absent ⟨"h"⟩)) := by cbv
  exact ⟨hmissing, (resolve_blames_defect contents _ _ hmissing).1,
    hcycle, (resolve_blames_defect contents _ _ hcycle).2,
    hfault, (resolve_blames_defect contents _ _ hfault).1,
    hentry, (resolve_blames_defect contents _ _ hentry).2.2⟩

end RuleGraph.Source
