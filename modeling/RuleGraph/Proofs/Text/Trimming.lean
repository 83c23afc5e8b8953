import Mathlib
import RuleGraph.Text.Blank

/-!
# Trimming

Blanks around a text are trimmed, and no other ones: `trim` undoes that they are put there, and what
it takes away are blanks.
-/
namespace RuleGraph

namespace Text

/-- Nothing but blanks. -/
def Blank (cs : List Char) : Prop := ∀ c ∈ cs, isBlank c = true

variable {front back cs : List Char}

theorem Blank.append (hfront : Blank front) (hback : Blank back) : Blank (front ++ back) :=
  List.forall_mem_append.mpr ⟨hfront, hback⟩

theorem trimEnd_append (hback : Blank back) (cs : List Char) :
    trimEnd (cs ++ back) = trimEnd cs := by
  have hreverse : ∀ c ∈ back.reverse, isBlank c = true := fun c hc =>
    hback c (List.mem_reverse.mp hc)
  rw [trimEnd, List.reverse_append, List.dropWhile_append_of_pos hreverse, trimEnd]

theorem trim_append_right (hback : Blank back) (cs : List Char) : trim (cs ++ back) = trim cs := by
  rw [trim, trimStart, List.dropWhile_append, trim, trimStart]
  split
  · rename_i hempty
    rw [List.isEmpty_iff.mp hempty, List.dropWhile_eq_nil_iff.mpr hback]
  · exact trimEnd_append hback _

theorem trim_append (hfront : Blank front) (hback : Blank back) (cs : List Char) :
    trim (front ++ cs ++ back) = trim cs := by
  rw [trim_append_right hback, trim, trimStart, List.dropWhile_append_of_pos hfront]
  rfl

/-- A text has blanks around it, and no other ones are trimmed. -/
theorem exists_trim (cs : List Char) :
    ∃ front back, Blank front ∧ Blank back ∧ cs = front ++ trim cs ++ back := by
  let front := cs.takeWhile isBlank
  let back := ((trimStart cs).reverse.takeWhile isBlank).reverse
  have hend : trim cs ++ back = trimStart cs := by
    rw [trim, trimEnd, ← List.reverse_append, List.takeWhile_append_dropWhile, List.reverse_reverse]
  refine ⟨front, back, fun _ => List.mem_takeWhile_imp, fun c hc => ?_, ?_⟩
  · exact List.mem_takeWhile_imp (List.mem_reverse.mp hc)
  · rw [List.append_assoc, hend]
    exact List.takeWhile_append_dropWhile.symm

theorem trim_trim (cs : List Char) : trim (trim cs) = trim cs := by
  obtain ⟨front, back, hfront, hback, hcs⟩ := exists_trim cs
  conv_rhs => rw [hcs, trim_append hfront hback]

theorem mem_of_mem_trim {c : Char} (hc : c ∈ trim cs) : c ∈ cs := by
  obtain ⟨front, back, -, -, hcs⟩ := exists_trim cs
  rw [hcs]
  exact List.mem_append_left _ (List.mem_append_right _ hc)

theorem dropWhile_of_solid (h : ∀ c ∈ cs, isBlank c = false) : cs.dropWhile isBlank = cs :=
  List.dropWhile_eq_self_iff.mpr fun hl => by simp [h _ (List.getElem_mem hl)]

/-- Nothing is trimmed where there is no blank. -/
theorem trim_of_solid (h : ∀ c ∈ cs, isBlank c = false) : trim cs = cs := by
  have hreverse : ∀ c ∈ cs.reverse, isBlank c = false := fun c hc => h c (List.mem_reverse.mp hc)
  rw [trim, trimStart, dropWhile_of_solid h, trimEnd, dropWhile_of_solid hreverse,
    List.reverse_reverse]

/-! ### Blanks in front of another character -/

theorem dropWhile_append_cons {p : Char → Bool} {c : Char} (hc : p c = false) (cs ds : List Char) :
    (cs ++ c :: ds).dropWhile p = cs.dropWhile p ++ c :: ds := by
  have hstop : (c :: ds).dropWhile p = c :: ds := List.dropWhile_cons_of_neg (by simp [hc])
  rw [List.dropWhile_append, hstop]
  split
  · rename_i hempty
    rw [List.isEmpty_iff.mp hempty, List.nil_append]
  · rfl

/-- Blanks are trimmed up to a character that is none. -/
theorem trimEnd_append_cons {c : Char} (hc : isBlank c = false) (cs ds : List Char) :
    trimEnd (cs ++ c :: ds) = cs ++ c :: trimEnd ds := by
  rw [trimEnd, List.reverse_append, List.reverse_cons, List.append_assoc, List.singleton_append,
    dropWhile_append_cons hc]
  simp [trimEnd]

theorem trim_append_cons {c : Char} (hc : isBlank c = false) (cs ds : List Char) :
    trim (cs ++ c :: ds) = trimStart cs ++ c :: trimEnd ds := by
  rw [trim, trimStart, dropWhile_append_cons hc, trimEnd_append_cons hc, trimStart]

theorem trim_trimStart (cs : List Char) : trim (trimStart cs) = trim cs := by
  have htwice : trimStart (trimStart cs) = trimStart cs :=
    List.dropWhile_idempotent isBlank cs
  rw [trim, htwice, trim]

end Text

end RuleGraph
