import RuleGraph.Proofs.Import.Collection
import RuleGraph.Proofs.Import.Dependencies

/-!
# Visiting imports depth first

While the imports of some files are visited, one file below the other, these files are marked as in
progress, and all others that were read are done with everything that they reach. A visit of one
more key keeps that, whatever is imported, and comes to an end; it fails only for a reason.
-/
namespace RuleGraph

open Relation

namespace Resolution

variable (r : Resolution) (p q : Path) (mark : Mark) (f : RuleFile)

@[simp] theorem mark?_setMark :
    (r.setMark p mark).mark? q = if p = q then some mark else r.mark? q := by
  by_cases h : p = q <;> simp [mark?, setMark, h]

@[simp] theorem mark?_note (e : Event) : (r.note e).mark? q = r.mark? q := rfl

@[simp] theorem mark?_finish :
    (r.finish p f).mark? q = if p = q then some .done else r.mark? q :=
  mark?_setMark r p q .done

@[simp] theorem files_setMark : (r.setMark p mark).files = r.files := rfl

@[simp] theorem files_note (e : Event) : (r.note e).files = r.files := rfl

@[simp] theorem files_finish : (r.finish p f).files = r.files.insert p f := rfl

/-- How a resolution stands while the imports of some files are visited. -/
structure Sound (source : Source) (entries : List Path) (begun : List RuleFile) (r : Resolution) :
    Prop where
  inProgress : ∀ p, r.mark? p = some .inProgress ↔ ∃ f ∈ begun, f.path = p
  done : ∀ p, r.mark? p = some .done ↔ ∃ f ∈ r.files.values, f.path = p
  nodup : (begun.map RuleFile.path).Nodup
  sorted : r.files.Sorted
  keyed : ∀ e ∈ r.files, e.1 = e.2.path
  /-- All files that were read are yielded by the source. -/
  yields : ∀ f ∈ begun ++ r.files.values, source.Yields f.path f
  key : ∀ f ∈ begun ++ r.files.values, source.key f.path = f.path
  reached : ∀ f ∈ begun ++ r.files.values, source.Reaches entries f.path
  /-- What is done has nothing left that it imports, and is on no cycle. -/
  closed : ∀ f ∈ r.files.values, ∀ q ∈ f.imports, r.mark? q = some .done
  cycleFree : ∀ f ∈ r.files.values, ¬ TransGen source.Imports f.path f.path
  /-- Each file was read once. -/
  journal : ∃ read : List RuleFile, r.journal = read.map RuleFile.told ∧
    read.Perm (begun ++ r.files.values)

variable {r p q f} {source : Source} {entries : List Path} {begun : List RuleFile}

theorem sound_empty : Sound source entries [] .empty where
  inProgress := by simp [empty, mark?]
  done := by simp [empty, mark?, ParsedFiles.values]
  nodup := by simp
  sorted := .nil
  keyed := by simp [empty]
  yields := by simp [empty, ParsedFiles.values]
  key := by simp [empty, ParsedFiles.values]
  reached := by simp [empty, ParsedFiles.values]
  closed := by simp [empty, ParsedFiles.values]
  cycleFree := by simp [empty, ParsedFiles.values]
  journal := ⟨[], rfl, .refl _⟩

/-- No more files are in progress than there are texts. -/
theorem Sound.length_le (h : r.Sound source entries begun) (hlawful : source.Lawful) :
    begun.length ≤ source.size := by
  have hlength := hlawful.length_le _ h.nodup fun p hp => by
    obtain ⟨f, hf, rfl⟩ := List.mem_map.mp hp
    obtain ⟨text, parsed, hread, -⟩ := h.yields f (List.mem_append_left _ hf)
    exact ⟨h.key f (List.mem_append_left _ hf), text, hread⟩
  simpa using hlength

/-- The file at a key that has no mark yet is begun. -/
theorem Sound.begin (h : r.Sound source entries begun) (hmark : r.mark? f.path = none)
    (hyields : source.Yields f.path f) (hkey : source.key f.path = f.path)
    (hreached : source.Reaches entries f.path) :
    ((r.setMark f.path .inProgress).note f.told).Sound source entries (f :: begun) where
  inProgress p := by
    by_cases hp : f.path = p
    · simp [hp]
    · simp [hp, h.inProgress]
  done p := by
    by_cases hp : f.path = p
    · subst hp
      have hnone := (h.done f.path).not.mp (by simp [hmark])
      simpa using hnone
    · simp [hp, h.done]
  nodup := by
    have hnone := (h.inProgress f.path).not.mp (by simp [hmark])
    simpa [h.nodup] using hnone
  sorted := h.sorted
  keyed := h.keyed
  yields := List.forall_mem_cons.mpr ⟨hyields, h.yields⟩
  key := List.forall_mem_cons.mpr ⟨hkey, h.key⟩
  reached := List.forall_mem_cons.mpr ⟨hreached, h.reached⟩
  closed g hg q hq := by
    have hdone := h.closed g hg q hq
    have hne : f.path ≠ q := by
      rintro rfl
      simp [hmark] at hdone
    simpa [hne] using hdone
  cycleFree := h.cycleFree
  journal := by
    obtain ⟨read, hjournal, hperm⟩ := h.journal
    refine ⟨read ++ [f], by simp [note, setMark, hjournal], ?_⟩
    exact (List.perm_append_singleton f read).trans (hperm.cons f)

/-- What is done reaches only what is done. -/
theorem Sound.done_of_reach (h : r.Sound source entries begun) (hp : r.mark? p = some .done)
    (hreach : ReflTransGen source.Imports p q) : r.mark? q = some .done := by
  induction hreach with
  | refl => exact hp
  | tail _ himports ih =>
    obtain ⟨f, hf, hpath⟩ := (h.done _).mp ih
    have hyields := h.yields f (List.mem_append_right _ hf)
    exact h.closed f hf _ ((hpath ▸ hyields).imports_iff.mp himports)

/-- A file is done once all that it imports is. -/
theorem Sound.finish (h : r.Sound source entries (f :: begun)) (hlawful : source.Lawful)
    (himports : ∀ q ∈ f.imports, r.mark? q = some .done) :
    (r.finish f.path f).Sound source entries begun := by
  have hinProgress : r.mark? f.path = some .inProgress :=
    (h.inProgress f.path).mpr ⟨f, List.mem_cons_self, rfl⟩
  have hf : f ∈ f :: begun ++ r.files.values := List.mem_cons_self
  have hnew : ∀ e ∈ r.files, f.path.same e.1 = false := by
    intro e he
    rw [Bool.eq_false_iff, h.keyed e he]
    intro hsame
    have hvalue : e.2 ∈ r.files.values := List.mem_map_of_mem he
    have hkey := h.key e.2 (List.mem_append_right _ hvalue)
    have hpath : f.path = e.2.path := by
      rw [← h.key f hf, ← hkey] at hsame ⊢
      exact hlawful.key_eq_of_same _ _ hsame
    have := (h.done f.path).mpr ⟨e.2, hvalue, hpath.symm⟩
    simp [hinProgress] at this
  have hperm : (r.finish f.path f).files.values.Perm (f :: r.files.values) :=
    (ParsedFiles.insert_perm hnew).map Prod.snd
  have hall : (f :: begun ++ r.files.values).Perm (begun ++ (r.finish f.path f).files.values) :=
    List.perm_middle.symm.trans (hperm.symm.append_left begun)
  have hcycleFree : ¬ TransGen source.Imports f.path f.path := by
    intro hcycle
    obtain ⟨q, hq, hback⟩ := TransGen.head'_iff.mp hcycle
    have hdone := himports q ((h.yields f hf).imports_iff.mp hq)
    have := h.done_of_reach hdone hback
    simp [hinProgress] at this
  obtain ⟨hdistinct, hnodup⟩ := List.nodup_cons.mp h.nodup
  exact {
    inProgress := fun p => by
      by_cases hp : f.path = p
      · subst hp
        simpa using hdistinct
      · simp [hp, h.inProgress]
    done := fun p => by
      have hvalues : (∃ g ∈ (r.finish f.path f).files.values, g.path = p) ↔
          f.path = p ∨ ∃ g ∈ r.files.values, g.path = p := by
        simp only [hperm.mem_iff, List.mem_cons, exists_eq_or_imp]
      rw [hvalues, ← h.done]
      by_cases hp : f.path = p <;> simp [hp]
    nodup := hnodup
    sorted := h.sorted.insert hnew
    keyed := fun e he => by
      obtain rfl | he := List.mem_cons.mp ((ParsedFiles.insert_perm hnew).mem_iff.mp he)
      · rfl
      · exact h.keyed e he
    yields := fun g hg => h.yields g (hall.mem_iff.mpr hg)
    key := fun g hg => h.key g (hall.mem_iff.mpr hg)
    reached := fun g hg => h.reached g (hall.mem_iff.mpr hg)
    closed := fun g hg q hq => by
      have hdone : r.mark? q = some .done := by
        obtain rfl | hg := List.mem_cons.mp (hperm.mem_iff.mp hg)
        · exact himports q hq
        · exact h.closed g hg q hq
      simp [hdone]
    cycleFree := fun g hg => by
      obtain rfl | hg := List.mem_cons.mp (hperm.mem_iff.mp hg)
      · exact hcycleFree
      · exact h.cycleFree g hg
    journal := by
      obtain ⟨read, hjournal, hread⟩ := h.journal
      exact ⟨read, hjournal, hread.trans hall⟩ }

end Resolution

namespace Source

open Resolution (Sound)

variable {source : Source} {entries : List Path} {begun : List RuleFile} {r : Resolution}

/-- What comes out of visiting some keys: an error that blames something, or a state in which
they are done, too. -/
inductive Visited (source : Source) (entries : List Path) (begun : List RuleFile) (r : Resolution)
    (paths : List Path) : Except ParseError Unit × Resolution → Prop
  | refused {e : ParseError} {r' : Resolution} (blames : source.Blames entries e) :
      Visited source entries begun r paths (.error e, r')
  | visited {r' : Resolution} (sound : r'.Sound source entries begun)
      (kept : ∀ p, r.mark? p = some .done → r'.mark? p = some .done)
      (done : ∀ p ∈ paths, r'.mark? p = some .done) :
      Visited source entries begun r paths (.ok (), r')

/-- Keys are visited one after the other, where each can be from any state. -/
theorem exists_visitEach {visit : Nat → Path → Resolution → Except ParseError Unit × Resolution}
    {n : Nat} {paths : List Path}
    (hvisit : ∀ p ∈ paths, ∀ r : Resolution, r.Sound source entries begun →
      ∃ out, (∀ fuel ≥ n, visit fuel p r = out) ∧ source.Visited entries begun r [p] out)
    (hr : r.Sound source entries begun) :
    ∃ out, (∀ fuel ≥ n, visitEach (visit fuel) paths r = out) ∧
      source.Visited entries begun r paths out := by
  induction paths generalizing r with
  | nil => exact ⟨(.ok (), r), fun _ _ => rfl, .visited hr (fun _ => id) (by simp)⟩
  | cons p paths ih =>
    obtain ⟨out, hout, hvisited⟩ := hvisit p List.mem_cons_self r hr
    cases hvisited with
    | refused blames =>
      exact ⟨_, fun fuel hfuel => by rw [visitEach, hout fuel hfuel], .refused blames⟩
    | @visited r' sound kept done =>
      obtain ⟨out', hout', hvisited'⟩ :=
        ih (fun q hq => hvisit q (List.mem_cons_of_mem _ hq)) sound
      refine ⟨out', fun fuel hfuel => by rw [visitEach, hout fuel hfuel, ← hout' fuel hfuel], ?_⟩
      cases hvisited' with
      | refused blames => exact .refused blames
      | visited sound' kept' done' =>
        refine .visited sound' (fun q hq => kept' q (kept q hq)) ?_
        exact List.forall_mem_cons.mpr ⟨kept' p (done p List.mem_cons_self), done'⟩

/-- The reason for a visit: the key is that of an entry, or imported by the file begun last. -/
structure Called (source : Source) (entries : List Path) (begun : List RuleFile)
    (importer : Option Path) (p : Path) : Prop where
  key : source.key p = p
  reached : source.Reaches entries p
  leads : ∀ f ∈ begun, TransGen source.Imports f.path p
  entry : importer = none → ∃ e ∈ entries, source.key e = p
  imported : ∀ file, importer = some file → source.Reaches entries file ∧ source.Imports file p

theorem Called.entered {e : Path} (he : e ∈ entries) (hlawful : source.Lawful) :
    source.Called entries [] none (source.key e) where
  key := hlawful.key_key e
  reached := .entry he
  leads := by simp
  entry _ := ⟨e, he, rfl⟩
  imported := by simp

theorem Called.next {importer : Option Path} {p q : Path} {f : RuleFile}
    (h : source.Called entries begun importer p) (hf : source.Yields p f) (hq : q ∈ f.imports)
    (hlawful : source.Lawful) : source.Called entries (f :: begun) (some p) q := by
  have himports : source.Imports p q := ⟨f, hf, hq⟩
  obtain ⟨t, rfl⟩ := hf.exists_key hq
  exact {
    key := hlawful.key_key t
    reached := h.reached.tail himports
    leads := List.forall_mem_cons.mpr
      ⟨.single (hf.path_eq ▸ himports), fun g hg => (h.leads g hg).tail himports⟩
    entry := by simp
    imported := fun file hfile => Option.some.inj hfile ▸ ⟨h.reached, himports⟩ }

/-- What keeps a file from being loaded is to blame. -/
theorem Called.blames_of_load {importer : Option Path} {p : Path} {e : ParseError}
    (h : source.Called entries begun importer p) (hload : source.load importer p = .error e) :
    source.Blames entries e := by
  obtain ⟨text, fault, hread, hparse, rfl⟩ | ⟨cause, hread, ⟨himporter, rfl⟩ | ⟨file, hfile, rfl⟩⟩ :=
    load_eq_error hload
  · exact .badSyntax h.reached hread hparse
  · obtain ⟨entry, hentry, rfl⟩ := h.entry himporter
    exact .unreadable hentry hread
  · obtain ⟨hreached, himports⟩ := h.imported file hfile
    exact .missingImport hreached himports hread

/-- A visit ends, with any fuel beyond the number of texts that are not in progress, and always
alike. -/
theorem exists_visit (hlawful : source.Lawful) (n : Nat) {importer : Option Path} {p : Path}
    (hroom : source.size < n + begun.length) (hr : r.Sound source entries begun)
    (hcalled : source.Called entries begun importer p) :
    ∃ out, (∀ fuel ≥ n, source.visit fuel importer p r = out) ∧
      source.Visited entries begun r [p] out := by
  induction n generalizing begun importer p r with
  | zero =>
    have := hr.length_le hlawful
    omega
  | succ n ih =>
    -- with that fuel there is one step more
    have hstep {out : Except ParseError Unit × Resolution}
        (h : ∀ fuel ≥ n, source.visit (fuel + 1) importer p r = out) :
        ∀ fuel ≥ n + 1, source.visit fuel importer p r = out := by
      intro fuel hfuel
      obtain ⟨fuel, rfl⟩ := Nat.exists_eq_add_of_le' (Nat.one_le_of_lt hfuel)
      exact h fuel (Nat.le_of_succ_le_succ hfuel)
    cases hmark : r.mark? p with
    | some mark =>
      cases mark with
      | inProgress =>
        obtain ⟨f, hf, rfl⟩ := (hr.inProgress p).mp hmark
        exact ⟨(.error (.cyclicDependency f.path), r), hstep fun fuel _ => by simp only [visit, hmark],
          .refused (.cyclicDependency hcalled.reached (hcalled.leads f hf))⟩
      | done =>
        exact ⟨(.ok (), r), hstep fun fuel _ => by simp only [visit, hmark],
          .visited hr (fun _ => id) (by simpa using hmark)⟩
    | none =>
      cases hload : source.load importer p with
      | error e =>
        exact ⟨(.error e, r), hstep fun fuel _ => by simp only [visit, hmark, hload],
          .refused (hcalled.blames_of_load hload)⟩
      | ok f =>
        have hyields := load_eq_ok_iff.mp hload
        obtain rfl := hyields.path_eq
        have hbegun := hr.begin hmark hyields hcalled.key hcalled.reached
        obtain ⟨out, hout, hvisited⟩ := exists_visitEach
          (fun q hq r' hr' => ih (by simp only [List.length_cons]; omega) hr'
            (hcalled.next hyields hq hlawful)) hbegun
        simp only [RuleFile.told] at hout
        cases hvisited with
        | @refused e r' blames =>
          exact ⟨(.error e, r'), hstep fun fuel hfuel => by
            simp only [visit, hmark, hload, hout fuel hfuel], .refused blames⟩
        | @visited r' sound kept done =>
          refine ⟨(.ok (), r'.finish f.path f), hstep fun fuel hfuel => by
            simp only [visit, hmark, hload, hout fuel hfuel], ?_⟩
          refine .visited (sound.finish hlawful done) (fun q hq => ?_) (by simp)
          have hne : f.path ≠ q := by
            rintro rfl
            simp [hmark] at hq
          have hkept := kept q (by simpa [hne] using hq)
          simpa [hne] using hkept

end Source
end RuleGraph
