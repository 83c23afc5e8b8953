import Mathlib
import RuleGraph.Rules.ParsedFiles

/-!
# Collections of parsed files are in order

Paths are ordered by their components. A collection that grew by new paths is in that order, so
that nothing but its entries tells two of them apart.
-/
namespace RuleGraph

namespace Path

/-- Where a component stands in the order of components; only names are told apart further. -/
def Component.place : Component → ℕ ×ₗ String
  | .name s => toLex (3, s)
  | c => toLex (c.rank, "")

theorem Component.place_injective : Function.Injective Component.place := by
  intro c d h
  cases c <;> cases d <;> simp_all [place, rank]

theorem Component.before_iff {c d : Component} : c.before d = true ↔ c.place < d.place := by
  cases c <;> cases d <;> simp [before, place, rank, Prod.Lex.toLex_lt_toLex]

/-- Where a path stands in the order of paths. -/
def place (p : Path) : List (ℕ ×ₗ String) := p.components.map Component.place

theorem same_iff_place_eq {p q : Path} : p.same q = true ↔ p.place = q.place := by
  rw [same_iff, place, place, (List.map_injective_iff.mpr Component.place_injective).eq_iff]

theorem before_iff_place_lt {p q : Path} : p.before q = true ↔ p.place < q.place := by
  have hlist (cs ds : List Component) :
      beforeList cs ds = true ↔ cs.map Component.place < ds.map Component.place := by
    induction cs generalizing ds with
    | nil => cases ds <;> simp [beforeList]
    | cons c cs ih =>
      cases ds with
      | nil => simp [beforeList]
      | cons d ds =>
        simp [beforeList, List.cons_lt_cons_iff, Component.before_iff, ih,
          Component.place_injective.eq_iff]
  exact hlist _ _

end Path

namespace ParsedFiles

variable {files files' : ParsedFiles} {path : Path} {file : RuleFile}

/-- Paths stand in their order, and none twice. -/
def Sorted (files : ParsedFiles) : Prop := files.Pairwise fun e e' => e.1.place < e'.1.place

theorem insert_perm (hnew : ∀ e ∈ files, path.same e.1 = false) :
    (insert path file files).Perm ((path, file) :: files) := by
  induction files with
  | nil => rfl
  | cons e rest ih =>
    rw [insert, if_neg (by simp [hnew e List.mem_cons_self])]
    split
    · rfl
    · exact ((ih fun e he => hnew e (List.mem_cons_of_mem _ he)).cons _).trans (.swap ..)

theorem Sorted.insert (h : files.Sorted) (hnew : ∀ e ∈ files, path.same e.1 = false) :
    (insert path file files).Sorted := by
  induction files with
  | nil => exact List.pairwise_singleton ..
  | cons e rest ih =>
    obtain ⟨hfirst, hrest⟩ := List.pairwise_cons.mp h
    have hnewRest : ∀ e ∈ rest, path.same e.1 = false := fun e he =>
      hnew e (List.mem_cons_of_mem _ he)
    have hnotSame := hnew e List.mem_cons_self
    rw [ParsedFiles.insert, if_neg (by simp [hnotSame])]
    split
    · rename_i hbefore
      have hlt := Path.before_iff_place_lt.mp hbefore
      refine List.pairwise_cons.mpr ⟨fun e' he' => ?_, h⟩
      obtain rfl | he' := List.mem_cons.mp he'
      · exact hlt
      · exact hlt.trans (hfirst e' he')
    · rename_i hbefore
      have hne : path.place ≠ e.1.place := fun heq => by
        simp [Path.same_iff_place_eq.mpr heq] at hnotSame
      have hgt : e.1.place < path.place :=
        lt_of_le_of_ne (not_lt.mp fun hlt => hbefore (Path.before_iff_place_lt.mpr hlt)) hne.symm
      refine List.pairwise_cons.mpr ⟨fun e' he' => ?_, ih hrest hnewRest⟩
      obtain rfl | he' := List.mem_cons.mp ((insert_perm hnewRest).mem_iff.mp he')
      · exact hgt
      · exact hfirst e' he'

theorem Sorted.nodup (h : files.Sorted) : files.Nodup :=
  h.imp fun {e e'} hlt (heq : e = e') => absurd (heq ▸ hlt) (lt_irrefl _)

theorem Sorted.eq_of_mem_iff (h : files.Sorted) (h' : files'.Sorted)
    (hmem : ∀ e, e ∈ files ↔ e ∈ files') : files = files' :=
  ((List.perm_ext_iff_of_nodup h.nodup h'.nodup).mpr hmem).eq_of_pairwise
    (fun _ _ _ _ hlt hgt => absurd hgt hlt.asymm) h h'

end ParsedFiles
end RuleGraph
