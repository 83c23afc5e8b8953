import Mathlib
import RuleGraph.Proofs.Import.Directives

/-!
# Where import errors stand

An error about an import stands behind the word for an import, on the first line that has no right
target. Its line is counted as it is for tokens. Its column is not: it counts the bytes in front of
it, and those of tokens count characters. The two are the same just when the line is indented with
ASCII characters only.
-/
namespace RuleGraph

namespace Text

/-! ### Bytes and characters -/

theorem byteCount_cons (c : Char) (cs : List Char) :
    byteCount (c :: cs) = c.utf8Size + byteCount cs := rfl

theorem byteCount_append (cs ds : List Char) :
    byteCount (cs ++ ds) = byteCount cs + byteCount ds := by
  induction cs with
  | nil => exact (Nat.zero_add _).symm
  | cons c cs ih => rw [List.cons_append, byteCount_cons, ih, byteCount_cons, Nat.add_assoc]

theorem length_le_byteCount (cs : List Char) : cs.length ≤ byteCount cs := by
  induction cs with
  | nil => rfl
  | cons c cs ih =>
    have hc := c.utf8Size_pos
    rw [byteCount_cons, List.length_cons]
    omega

theorem utf8Size_eq_one_iff (c : Char) : c.utf8Size = 1 ↔ c.toNat < 128 := by
  rw [Char.utf8Size_eq_one_iff, UInt32.le_iff_toNat_le, ← Nat.lt_succ_iff]
  rfl

/-- A text has as many bytes as characters when all of them are ASCII characters. -/
theorem byteCount_eq_length_iff {cs : List Char} :
    byteCount cs = cs.length ↔ ∀ c ∈ cs, c.toNat < 128 := by
  induction cs with
  | nil => simp [byteCount]
  | cons c cs ih =>
    have hc := c.utf8Size_pos
    have hcs := length_le_byteCount cs
    rw [List.forall_mem_cons, ← ih, ← utf8Size_eq_one_iff, byteCount_cons, List.length_cons]
    omega

/-! ### Lines -/

/-- A piece of a text is a line without its line feed or with it. -/
theorem exists_of_mem_pieces {cs piece : List Char} (h : piece ∈ pieces cs) :
    ∃ line, '\n' ∉ line ∧ (piece = line ∨ piece = line ++ ['\n']) := by
  induction cs generalizing piece with
  | nil => cases h
  | cons c cs ih =>
    rw [pieces] at h
    split at h
    · rename_i hfeed
      obtain rfl | h := List.mem_cons.mp h
      · exact ⟨[], List.not_mem_nil, .inr (by rw [hfeed]; rfl)⟩
      · exact ih h
    · rename_i hfeed
      have hcons {line : List Char} (hline : '\n' ∉ line) : '\n' ∉ c :: line :=
        List.not_mem_cons_of_ne_of_not_mem (Ne.symm hfeed) hline
      split at h
      · obtain rfl := List.mem_singleton.mp h
        exact ⟨[c], hcons List.not_mem_nil, .inl rfl⟩
      · rename_i p ps hpieces
        rw [hpieces] at ih
        obtain rfl | h := List.mem_cons.mp h
        · obtain ⟨line, hline, hp⟩ := ih List.mem_cons_self
          refine ⟨c :: line, hcons hline, hp.imp (fun hp => ?_) (fun hp => ?_)⟩
          · rw [hp]
          · rw [hp, List.cons_append]
        · exact ih (List.mem_cons_of_mem _ h)

theorem stripLineEnd_feed (line : List Char) : stripLineEnd (line ++ ['\n']) <+: line := by
  unfold stripLineEnd
  rw [List.reverse_append]
  split
  · rename_i rest hreverse
    have hline : line.reverse = '\r' :: rest := (List.cons.inj hreverse).2
    exact ⟨['\r'], by rw [← List.reverse_reverse line, hline, List.reverse_cons]⟩
  · rename_i rest _ hreverse
    have hline : line.reverse = rest := (List.cons.inj hreverse).2
    rw [← hline, List.reverse_reverse]
  · rename_i hreverse
    exact absurd rfl (hreverse line.reverse)

theorem not_mem_stripLineEnd {cs piece : List Char} (h : piece ∈ pieces cs) :
    '\n' ∉ stripLineEnd piece := by
  obtain ⟨line, hline, hpiece⟩ := exists_of_mem_pieces h
  have hinit : stripLineEnd piece <+: line := by
    obtain rfl | rfl := hpiece
    · exact Import.stripLineEnd_prefix_self piece
    · exact stripLineEnd_feed line
  exact fun hmem => hline (hinit.subset hmem)

end Text

namespace Import

open Lexer (LineStart)
open Position (behind)

/-! ### The line of an error -/

/-- The error is one about this line, and the lines in front of it bring none. -/
def FirstError (ls : List Line) (line : Line) (e : SyntaxError) : Prop :=
  ∃ earlier later, ls = earlier ++ line :: later ∧
    (∀ l ∈ earlier, ∀ e', l.directive? ≠ some (.error e')) ∧ line.directive? = some (.error e)

theorem FirstError.cons {ls : List Line} {line first : Line} {e : SyntaxError}
    (h : FirstError ls line e) (hfirst : ∀ e', first.directive? ≠ some (.error e')) :
    FirstError (first :: ls) line e := by
  obtain ⟨earlier, later, rfl, hearlier, hline⟩ := h
  exact ⟨first :: earlier, later, rfl, List.forall_mem_cons.mpr ⟨hfirst, hearlier⟩, hline⟩

theorem FirstError.directive? {ls : List Line} {line : Line} {e : SyntaxError}
    (h : FirstError ls line e) : line.directive? = some (.error e) := by
  obtain ⟨-, -, -, -, hline⟩ := h
  exact hline

theorem FirstError.mem {ls : List Line} {line : Line} {e : SyntaxError}
    (h : FirstError ls line e) : line ∈ ls := by
  obtain ⟨earlier, later, rfl, -⟩ := h
  exact List.mem_append_right _ List.mem_cons_self

theorem exists_firstError {ls : List Line} {e : SyntaxError}
    (h : (ls.filterMap Line.directive?).mapM id = .error e) : ∃ line, FirstError ls line e := by
  induction ls with
  | nil => cases h
  | cons first ls ih =>
    rw [List.filterMap_cons] at h
    cases hfirst : first.directive? with
    | none =>
      rw [hfirst] at h
      obtain ⟨line, hline⟩ := ih h
      exact ⟨line, hline.cons (by simp [hfirst])⟩
    | some found =>
      rw [hfirst] at h
      cases found with
      | error e' =>
        obtain rfl : e' = e := Except.error.inj h
        exact ⟨first, [], ls, rfl, by simp, hfirst⟩
      | ok path =>
        have hrest : (ls.filterMap Line.directive?).mapM id = .error e := by
          rw [List.mapM_cons] at h
          cases hrest : (ls.filterMap Line.directive?).mapM id with
          | error e' =>
            rw [hrest] at h
            exact h
          | ok paths =>
            rw [hrest] at h
            cases h
        obtain ⟨line, hline⟩ := ih hrest
        exact ⟨line, hline.cons (by simp [hfirst])⟩

theorem exists_piece {front : List Char} {pieces : List (List Char)} {line : Line}
    (h : line ∈ linesFrom front pieces) :
    ∃ piece ∈ pieces, line.text = Text.stripLineEnd piece := by
  induction pieces generalizing front with
  | nil => cases h
  | cons piece pieces ih =>
    obtain rfl | h := List.mem_cons.mp h
    · exact ⟨piece, List.mem_cons_self, rfl⟩
    · obtain ⟨p, hp, htext⟩ := ih h
      exact ⟨p, List.mem_cons_of_mem _ hp, htext⟩

theorem not_mem_text {text : List Char} {line : Line} (h : line ∈ lines text) :
    '\n' ∉ line.text := by
  obtain ⟨piece, hpiece, htext⟩ := exists_piece h
  rw [htext]
  exact Text.not_mem_stripLineEnd hpiece

/-! ### The place of an error -/

/-- On a line that begins behind `front`, a column is one more than the characters in front. -/
theorem behind_append_line {front cs : List Char} (hfront : LineStart front) (hcs : '\n' ∉ cs) :
    behind (front ++ cs) = ⟨(behind front).line, 1 + cs.length⟩ := by
  have hall : ∀ c ∈ cs.reverse, (c != '\n') = true := fun c hc => by
    rw [bne_iff_ne]
    rintro rfl
    exact hcs (List.mem_reverse.mp hc)
  have hnone : front.reverse.takeWhile (· != '\n') = [] := by
    obtain rfl | ⟨before, c, rfl⟩ := front.eq_nil_or_concat
    · rfl
    · obtain rfl : c = '\n' := hfront c (by simp)
      simp
  simp [behind, List.count_append, List.count_eq_zero_of_not_mem hcs,
    List.takeWhile_append_of_pos hall, hnone]

theorem argument?_size {line : Line} {size : ℕ} {argument : List Char}
    (h : argument? line.text = some (size, argument)) :
    size = Text.byteCount (line.indent ++ directive) := by
  have hbytes : Text.byteCount line.text =
      Text.byteCount line.indent + Text.byteCount (Text.trimStart line.text) := by
    rw [← Text.byteCount_append, Line.indent, Text.trimStart, List.takeWhile_append_dropWhile]
  have hdirective : Text.byteCount directive = directive.length := rfl
  rw [Text.byteCount_append, hdirective]
  unfold argument? at h
  simp only [hbytes, Nat.add_sub_cancel] at h
  split at h
  · cases h
  · split at h
    · cases h
      rfl
    · split at h
      · cases h
        rfl
      · cases h

/-- The text up to the end of the word for an import. -/
def Line.upToWord (line : Line) : List Char := line.front ++ (line.indent ++ directive)

theorem pos_of_directive? {line : Line} {e : SyntaxError}
    (h : line.directive? = some (.error e)) :
    e.pos = ⟨(behind line.front).line, 1 + Text.byteCount (line.indent ++ directive)⟩ := by
  obtain ⟨⟨size, argument⟩, hargument, hfound⟩ := Option.map_eq_some_iff.mp h
  simp only at hfound
  split at hfound
  · cases hfound
    rw [argument?_size hargument, Nat.add_comm]
  · cases hfound

theorem upToWord_prefix {text : List Char} {line : Line} (h : line ∈ lines text)
    (hdirective : line.directive?.isSome) : line.upToWord <+: text := by
  obtain ⟨argument, htext⟩ := line.text_eq hdirective
  have hinit : line.upToWord <+: line.front ++ line.text :=
    ⟨argument, by rw [htext, Line.upToWord]; simp⟩
  exact hinit.trans (mem_lines h).2

theorem behind_upToWord {text : List Char} {line : Line} (h : line ∈ lines text)
    (hdirective : line.directive?.isSome) :
    behind line.upToWord = ⟨(behind line.front).line, 1 + (line.indent ++ directive).length⟩ := by
  obtain ⟨argument, htext⟩ := line.text_eq hdirective
  have hfeed := not_mem_text h
  rw [htext, ← List.append_assoc] at hfeed
  exact behind_append_line (mem_lines h).1 fun hmem => hfeed (List.mem_append_left _ hmem)

theorem byteCount_word_eq_iff (line : Line) :
    Text.byteCount (line.indent ++ directive) = (line.indent ++ directive).length ↔
      ∀ c ∈ line.indent, c.toNat < 128 := by
  have hdirective : ∀ c ∈ directive, c.toNat < 128 := Text.byteCount_eq_length_iff.mp rfl
  rw [Text.byteCount_eq_length_iff, List.forall_mem_append, and_iff_left hdirective]

/-- An import error is about the first line that has no right target, and stands behind the word for
an import on it. Its column counts the bytes in front of it, where positions count characters, also
when these are found byte by byte with counters of 32 bits. So the error has the position of the
text behind the word just when the line is indented with ASCII characters. -/
theorem error_behind_word {source : String} {e : SyntaxError} (h : scan source = .error e) :
    ∃ line, FirstError (lines source.toList) line e ∧ line.upToWord <+: source.toList ∧
      LineStart line.front ∧ '\n' ∉ line.text ∧
      e.pos = ⟨(behind line.upToWord).line, 1 + Text.byteCount (line.indent ++ directive)⟩ ∧
      (behind line.upToWord).column = 1 + (line.indent ++ directive).length ∧
      (Lexer.utf8 line.upToWord).foldl Lexer.Counters.bump ⟨1, 1⟩ =
        .ofPosition (behind line.upToWord) ∧
      (e.pos = behind line.upToWord ↔ ∀ c ∈ line.indent, c.toNat < 128) := by
  rw [scan_eq] at h
  obtain ⟨line, hline⟩ := exists_firstError h
  have hmem := hline.mem
  have hdirective : line.directive?.isSome := by rw [hline.directive?]; rfl
  have hpos := pos_of_directive? hline.directive?
  have hplace := behind_upToWord hmem hdirective
  refine ⟨line, hline, upToWord_prefix hmem hdirective, (mem_lines hmem).1, not_mem_text hmem, ?_,
    ?_, ?_, ?_⟩
  · rw [hpos, hplace]
  · rw [hplace]
  · exact (Lexer.bump_utf8 Position.start line.upToWord).trans (by rw [Position.start_after])
  · rw [hpos, hplace, Position.mk.injEq, ← byteCount_word_eq_iff]
    omega

/-- A tab and a blank in front of the word, on the second line. -/
theorem error_behind_word_indented : ∃ e line,
    scan "#import \"a\"\r\n\t #import b" = .error e ∧ e.pos = ⟨2, 10⟩ ∧
      FirstError (lines "#import \"a\"\r\n\t #import b".toList) line e ∧
      (behind line.upToWord).line = 2 := by
  have hscan : scan "#import \"a\"\r\n\t #import b" =
      .error ⟨⟨2, 10⟩, .importTarget "b", [.quotedPath]⟩ := rfl
  obtain ⟨line, hline, -, -, -, hpos, -⟩ := error_behind_word hscan
  exact ⟨_, line, hscan, rfl, hline, (congrArg Position.line hpos).symm⟩

/-- A blank of two bytes in front of the word moves the error by one column. -/
theorem wide_blank_moves_error :
    let line : Line := ⟨[], "\u00a0#import b".toList⟩
    let e : SyntaxError := ⟨⟨1, 10⟩, .importTarget "b", [.quotedPath]⟩
    scan "\u00a0#import b" = .error e ∧ FirstError (lines "\u00a0#import b".toList) line e ∧
      line.upToWord = "\u00a0#import".toList ∧ behind line.upToWord = ⟨1, 9⟩ ∧
      e.pos ≠ behind line.upToWord := by
  intro line e
  have hlines : lines "\u00a0#import b".toList = [line] := rfl
  have hplace : behind line.upToWord = ⟨1, 9⟩ := rfl
  refine ⟨rfl, ⟨[], [], hlines, by simp, rfl⟩, rfl, hplace, ?_⟩
  rw [hplace]
  decide

end Import

end RuleGraph
