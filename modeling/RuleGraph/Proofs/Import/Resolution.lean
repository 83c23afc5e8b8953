import RuleGraph.Proofs.Import.Visiting

/-!
# Resolution is exact

Entries are resolved just when nothing that they reach stands in the way. The result has the files
that they reach, each read once, and depends on no order of the entries.
-/
namespace RuleGraph.Source

open Relation
open Resolution (Sound)

variable {source : Source} {entries entries' : List Path} {p : Path} {f : RuleFile}
  {r : Resolution}

/-- Any fuel above the number of texts is enough. -/
theorem exists_resolution (hlawful : source.Lawful) (entries : List Path) :
    ∃ out, (∀ fuel > source.size,
        visitEach (source.visit fuel none) (entries.map source.key) .empty = out) ∧
      source.Visited entries [] .empty (entries.map source.key) out := by
  refine exists_visitEach (fun p hp r hr => ?_) Resolution.sound_empty
  obtain ⟨e, he, rfl⟩ := List.mem_map.mp hp
  exact exists_visit hlawful _ (by simp) hr (.entered he hlawful)

theorem resolution_cases (hlawful : source.Lawful) (entries : List Path) :
    (∃ r, source.resolution entries = (.ok (), r) ∧ r.Sound source entries [] ∧
        ∀ e ∈ entries, r.mark? (source.key e) = some .done) ∨
      ∃ e r, source.resolution entries = (.error e, r) ∧ source.Blames entries e := by
  obtain ⟨out, hout, hvisited⟩ := exists_resolution hlawful entries
  have hresolution : source.resolution entries = out := hout _ (Nat.lt_succ_self _)
  rw [hresolution]
  cases hvisited with
  | @refused e r blames => exact .inr ⟨e, r, rfl, blames⟩
  | @visited r sound kept done =>
    exact .inl ⟨r, rfl, sound, fun e he => done _ (List.mem_map_of_mem he)⟩

/-- With all entries done, the files are those that they reach. -/
theorem mem_files_iff (hr : r.Sound source entries [])
    (hdone : ∀ e ∈ entries, r.mark? (source.key e) = some .done) :
    (p, f) ∈ r.files ↔ source.Reaches entries p ∧ source.Yields p f := by
  have hvalues {f : RuleFile} (hf : f ∈ r.files.values) : f ∈ [] ++ r.files.values := hf
  constructor
  · intro hmem
    have hf : f ∈ r.files.values := List.mem_map_of_mem hmem
    obtain rfl : p = f.path := hr.keyed _ hmem
    exact ⟨hr.reached f (hvalues hf), hr.yields f (hvalues hf)⟩
  · rintro ⟨⟨e, he, hreach⟩, hyields⟩
    obtain ⟨g, hg, rfl⟩ := (hr.done p).mp (hr.done_of_reach (hdone e he) hreach)
    obtain rfl := hyields.unique (hr.yields g (hvalues hg))
    obtain ⟨⟨q, f⟩, hmem, rfl⟩ := List.mem_map.mp hg
    obtain rfl : q = f.path := hr.keyed _ hmem
    exact hmem

theorem resolvable_of_sound (hr : r.Sound source entries [])
    (hdone : ∀ e ∈ entries, r.mark? (source.key e) = some .done) : source.Resolvable entries := by
  have hfile (p : Path) (hp : source.Reaches entries p) : ∃ f ∈ r.files.values, f.path = p := by
    obtain ⟨e, he, hreach⟩ := hp
    exact (hr.done p).mp (hr.done_of_reach (hdone e he) hreach)
  constructor
  · intro p hp
    obtain ⟨f, hf, rfl⟩ := hfile p hp
    exact ⟨f, hr.yields f hf⟩
  · intro p hp
    obtain ⟨f, hf, rfl⟩ := hfile p hp
    exact hr.cycleFree f hf

theorem resolve_eq_ok_iff (hlawful : source.Lawful) :
    (∃ files, source.resolve entries = .ok files) ↔ source.Resolvable entries := by
  obtain ⟨r, hresolution, hr, hdone⟩ | ⟨e, r, hresolution, hblames⟩ :=
    resolution_cases hlawful entries
  · simpa [resolve, hresolution] using resolvable_of_sound hr hdone
  · simpa [resolve, hresolution] using hblames.not_resolvable

/-- What a successful resolution leads to. -/
theorem exists_of_resolve (hlawful : source.Lawful) {files : ParsedFiles}
    (h : source.resolve entries = .ok files) :
    ∃ r : Resolution, source.resolution entries = (.ok (), r) ∧ r.files = files ∧
      r.Sound source entries [] ∧ ∀ e ∈ entries, r.mark? (source.key e) = some .done := by
  obtain ⟨r, hresolution, hr, hdone⟩ | ⟨e, r, hresolution, hblames⟩ :=
    resolution_cases hlawful entries
  · simp only [resolve, hresolution, Except.ok.injEq] at h
    exact ⟨r, hresolution, h, hr, hdone⟩
  · simp [resolve, hresolution] at h

/-- Entries with the same keys are resolved alike. -/
theorem resolve_congr (hlawful : source.Lawful) {files : ParsedFiles}
    (hkeys : ∀ p, p ∈ entries.map source.key ↔ p ∈ entries'.map source.key)
    (h : source.resolve entries = .ok files) : source.resolve entries' = .ok files := by
  have hreaches (p : Path) : source.Reaches entries p ↔ source.Reaches entries' p :=
    reaches_congr hkeys
  obtain ⟨hyields, hcycleFree⟩ := (resolve_eq_ok_iff hlawful).mp ⟨files, h⟩
  obtain ⟨files', h'⟩ := (resolve_eq_ok_iff hlawful).mpr
    (⟨fun p hp => hyields p ((hreaches p).mpr hp), fun p hp => hcycleFree p ((hreaches p).mpr hp)⟩ :
      source.Resolvable entries')
  obtain ⟨r, -, rfl, hr, hdone⟩ := exists_of_resolve hlawful h
  obtain ⟨r', -, rfl, hr', hdone'⟩ := exists_of_resolve hlawful h'
  rw [h']
  refine congrArg Except.ok (hr'.sorted.eq_of_mem_iff hr.sorted fun ⟨p, f⟩ => ?_)
  rw [mem_files_iff hr hdone, mem_files_iff hr' hdone', hreaches]

/-- Import resolution over rule files held in memory: when it succeeds, what it gives, that it reads
each file once, and that nothing but the keys of the entries matters. More fuel changes nothing, not
even what is told of the files read, so that visiting ends by itself whatever the files import. -/
theorem resolve_exact (contents : List (Path × String)) (entries : List Path) :
    let source := ofFiles contents
    ((∃ files, source.resolve entries = .ok files) ↔
        (∀ p, source.Reaches entries p → ∃ f, source.Yields p f) ∧
          ∀ p, source.Reaches entries p → ¬ TransGen source.Imports p p) ∧
      (∀ files, source.resolve entries = .ok files →
        (files.map Prod.fst).Nodup ∧
          (∀ p, p ∈ files.map Prod.fst ↔ source.Reaches entries p) ∧
          (∀ p f, (p, f) ∈ files → source.Yields p f ∧ f.path = p ∧
            ∃ text targets, source.read p = .ok text ∧ Import.scan text = .ok targets ∧
              f.imports = targets.map fun t => (Import.resolve p t).normalize) ∧
          ∃ read : List RuleFile, read.Perm files.values ∧
            (source.resolution entries).2.journal = read.map RuleFile.told) ∧
      (∀ entries' : List Path,
        (∀ p, p ∈ entries.map source.key ↔ p ∈ entries'.map source.key) →
          ∀ files, source.resolve entries = .ok files ↔ source.resolve entries' = .ok files) ∧
      ∀ fuel > contents.length, visitEach (source.visit fuel none) (entries.map source.key) .empty =
        source.resolution entries := by
  intro source
  have hlawful : source.Lawful := lawful_ofFiles contents
  refine ⟨?_, fun files h => ?_, fun entries' hkeys files => ?_, fun fuel hfuel => ?_⟩
  · rw [resolve_eq_ok_iff hlawful]
    exact ⟨fun h => ⟨h.yields, h.cycleFree⟩, fun h => ⟨h.1, h.2⟩⟩
  · obtain ⟨r, hresolution, rfl, hr, hdone⟩ := exists_of_resolve hlawful h
    obtain ⟨hyields, -⟩ := (resolve_eq_ok_iff hlawful).mp ⟨_, h⟩
    refine ⟨?_, fun p => ?_, fun p f hmem => ?_, ?_⟩
    · rw [List.Nodup, List.pairwise_map]
      exact hr.sorted.imp fun {e e'} hlt (heq : e.1 = e'.1) => absurd (heq ▸ hlt) (lt_irrefl _)
    · constructor
      · intro hp
        obtain ⟨⟨p, f⟩, hmem, rfl⟩ := List.mem_map.mp hp
        exact ((mem_files_iff hr hdone).mp hmem).1
      · intro hp
        obtain ⟨f, hf⟩ := hyields p hp
        exact List.mem_map_of_mem (f := Prod.fst) ((mem_files_iff hr hdone).mpr ⟨hp, hf⟩)
    · have hf := ((mem_files_iff hr hdone).mp hmem).2
      exact ⟨hf, hf.path_eq, hf.exists_targets⟩
    · obtain ⟨read, hjournal, hperm⟩ := hr.journal
      exact ⟨read, hperm, by rw [hresolution, hjournal]⟩
  · exact ⟨resolve_congr hlawful hkeys, resolve_congr hlawful fun p => (hkeys p).symm⟩
  · obtain ⟨out, hout, -⟩ := exists_resolution hlawful entries
    exact (hout fuel hfuel).trans (hout _ (Nat.lt_succ_self _)).symm

end RuleGraph.Source
