import Mathlib
import RuleGraph.Proofs.Decimal.Rounding
import RuleGraph.Proofs.Rules.Spelling

/-!
# Numbers without an exponent

A text without letters is read as a number just when it is an optional sign and digits with at most
one point. `rational` is the exact number that it denotes, and the value that is read is the one
which this number is rounded to.
-/
namespace RuleGraph

namespace Decimal

open Lexer (IsSign AllDigits IsMantissa isDigit_eq)

/-! ### Texts without letters -/

variable {cs : List Char}

theorem toLower_eq {c : Char} (hc : c.isAlpha = false) : c.toLower = c := by
  have hupper : ¬(c.val ≥ 'A'.val ∧ c.val ≤ 'Z'.val) := fun h => by
    have hletter : c.isUpper = true := by simpa [Char.isUpper] using h
    simp [Char.isAlpha, hletter] at hc
  rw [Char.toLower, dif_neg hupper]

theorem lower_eq (hcs : ∀ c ∈ cs, c.isAlpha = false) : lower cs = cs :=
  (List.map_congr_left fun c hc => toLower_eq (hcs c hc)).trans (List.map_id cs)

theorem exponent?_eq_nil {e : ℤ} (hcs : ∀ c ∈ cs, c.isAlpha = false)
    (h : exponent? cs = some e) : cs = [] := by
  cases cs with
  | nil => rfl
  | cons c cs =>
    have hc := hcs c List.mem_cons_self
    have hletter : ¬(c = 'e' ∨ c = 'E') := by
      rintro (rfl | rfl) <;> cases hc
    simp [exponent?, hletter] at h

/-- The sign of a number, and what is behind it. -/
theorem exists_sign (cs : List Char) : ∃ s, IsSign s ∧ cs = s ++ (sign cs).2 := by
  unfold sign
  split
  · exact ⟨['-'], .minus, rfl⟩
  · exact ⟨['+'], .plus, rfl⟩
  · exact ⟨[], .none, rfl⟩

theorem allDigits_takeWhile (cs : List Char) : AllDigits (cs.takeWhile isDigit) := fun c hc => by
  rw [← isDigit_eq]
  exact List.mem_takeWhile_imp hc

/-- A number without letters has no exponent and is none of the words. -/
theorem isMantissa_of_magnitude? {negative : Bool} {x : Binary64}
    (hcs : ∀ c ∈ cs, c.isAlpha = false) (h : magnitude? negative cs = some x) : IsMantissa cs := by
  have hword {word : List Char} {c : Char} (hc : c ∈ word) (hletter : c.isAlpha = true) :
      cs ≠ word := by
    rintro rfl
    rw [hcs c hc] at hletter
    cases hletter
  have hinf : cs ≠ "inf".toList := hword List.mem_cons_self rfl
  have hinfinity : cs ≠ "infinity".toList := hword List.mem_cons_self rfl
  have hnan : cs ≠ "nan".toList := hword List.mem_cons_self rfl
  have hwhole : AllDigits (cs.takeWhile isDigit) := allDigits_takeWhile cs
  have hsplit : cs.takeWhile isDigit ++ cs.dropWhile isDigit = cs := List.takeWhile_append_dropWhile
  have hbehind : ∀ c ∈ cs.dropWhile isDigit, c.isAlpha = false := fun c hc =>
    hcs c ((List.dropWhile_sublist _).mem hc)
  unfold magnitude? at h
  simp only [lower_eq hcs, hinf, hinfinity, hnan, decide_false, Bool.or_false, if_false,
    Bool.false_eq_true, ite_eq_iff, Option.map_eq_some_iff, reduceCtorEq, and_false, false_or,
    List.isEmpty_iff] at h
  split at h
  · rename_i r hpoint
    obtain ⟨hdigits, e, he, -⟩ := h
    rw [hpoint] at hbehind hsplit
    have hrest : r.dropWhile isDigit = [] := exponent?_eq_nil (fun c hc =>
      hbehind c (List.mem_cons_of_mem _ ((List.dropWhile_sublist _).mem hc))) he
    have hfraction : r.takeWhile isDigit = r := by
      rw [← List.append_nil (r.takeWhile isDigit), ← hrest, List.takeWhile_append_dropWhile]
    rw [← hsplit, ← hfraction]
    exact .pointed hdigits hwhole (allDigits_takeWhile r)
  · obtain ⟨hdigits, e, he, -⟩ := h
    rw [exponent?_eq_nil hbehind he] at hsplit
    rw [List.append_nil] at hdigits hsplit
    rw [← hsplit]
    exact .whole hdigits hwhole

theorem exists_parts_of_read? {x : Binary64} (hcs : ∀ c ∈ cs, c.isAlpha = false)
    (h : Binary64.read? cs = some x) : ∃ s m, IsSign s ∧ IsMantissa m ∧ cs = s ++ m := by
  obtain ⟨s, hs, hsplit⟩ := exists_sign cs
  refine ⟨s, (sign cs).2, hs, isMantissa_of_magnitude? (fun c hc => hcs c ?_) h, hsplit⟩
  rw [hsplit]
  exact List.mem_append_right _ hc

/-! ### What is read -/

/-- The number that an optional sign and digits with at most one point denote. -/
def rational (cs : List Char) : ℚ :=
  Binary64.signed (cs.head? = some '-')
    (natOf (cs.filter isDigit) / 10 ^ (cs.dropWhile (· != '.')).tail.length)

theorem filter_digits {ds : List Char} (hds : AllDigits ds) : ds.filter isDigit = ds :=
  List.filter_eq_self.mpr fun c hc => by rw [isDigit_eq, hds c hc]

theorem dropWhile_digits {ds : List Char} (hds : AllDigits ds) (cs : List Char) :
    (ds ++ cs).dropWhile (· != '.') = cs.dropWhile (· != '.') := by
  refine List.dropWhile_append_of_pos fun c hc => ?_
  rw [bne_iff_ne]
  rintro rfl
  exact absurd (hds '.' hc) (by decide)

theorem magnitude?_mantissa (negative : Bool) {m : List Char} (hm : IsMantissa m) :
    magnitude? negative m = some (.ofDecimal negative (natOf (m.filter isDigit))
      (-((m.dropWhile (· != '.')).tail.length : ℤ))) := by
  have hend : ∀ c ∈ ([] : List Char).head?, c.isDigit = false := by simp
  cases hm with
  | whole ne_nil digits =>
    have hpoint := dropWhile_digits digits []
    obtain ⟨htake, hdrop⟩ := Lexer.takeWhile_digits digits hend
    rw [List.append_nil] at htake hdrop hpoint
    rw [magnitude?, htake, hdrop, filter_digits digits, hpoint]
    simp [ne_nil, exponent?]
  | @pointed ds es ne_nil whole fraction =>
    have hpoint : ∀ c ∈ ('.' :: es).head?, c.isDigit = false := by
      rintro c ⟨⟩
      rfl
    obtain ⟨htake, hdrop⟩ := Lexer.takeWhile_digits whole hpoint
    obtain ⟨htake', hdrop'⟩ := Lexer.takeWhile_digits fraction hend
    rw [List.append_nil] at htake' hdrop'
    have hfilter : (ds ++ '.' :: es).filter isDigit = ds ++ es := by
      rw [List.filter_append, List.filter_cons_of_neg (by decide), filter_digits whole,
        filter_digits fraction]
    have htail : (('.' :: es).dropWhile (· != '.')).tail = es := rfl
    rw [magnitude?, htake, hdrop, hfilter, dropWhile_digits whole, htail]
    simp [htake', hdrop', ne_nil, exponent?]

theorem read?_mantissa {s m : List Char} (hs : IsSign s) (hm : IsMantissa m) :
    Binary64.read? (s ++ m) = some (.ofDecimal ((s ++ m).head? = some '-')
      (natOf ((s ++ m).filter isDigit)) (-(((s ++ m).dropWhile (· != '.')).tail.length : ℤ))) := by
  cases hs with
  | none =>
    obtain ⟨c, cs, rfl, hc⟩ := hm.exists_cons
    have hhead : ∀ d ∈ (c :: cs).head?, d ≠ '-' ∧ d ≠ '+' := by
      rintro d ⟨⟩
      exact Lexer.not_sign hc
    rw [List.nil_append, Binary64.read?, Lexer.sign_of_head hhead]
    simpa [(Lexer.not_sign hc).1] using magnitude?_mantissa false hm
  | plus => exact magnitude?_mantissa false hm
  | minus => exact magnitude?_mantissa true hm

/-- The value that is read is the one which the number is rounded to. -/
theorem exists_read? {s m : List Char} (hs : IsSign s) (hm : IsMantissa m) :
    ∃ x, Binary64.read? (s ++ m) = some x ∧ ∀ w, x.toRat? = some w ↔
      Binary64.Rounds (rational (s ++ m)) w ∧ |w| < 2 ^ (1024 : ℤ) := by
  refine ⟨_, read?_mantissa hs hm, fun w => ?_⟩
  rw [Binary64.toRat?_ofDecimal_iff, zpow_neg, zpow_natCast, ← div_eq_mul_inv]
  rfl

end Decimal

end RuleGraph
