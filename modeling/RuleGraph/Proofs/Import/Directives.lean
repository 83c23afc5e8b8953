import Mathlib
import RuleGraph.Proofs.Rules.Layout

/-!
# Where import directives stand

Imports are taken from lines, and lines know nothing of tokens. In a text that has tokens, a line
that is taken for an import is a comment between two of them, or it begins inside of a string that
is written over several lines.
-/
namespace RuleGraph

namespace Lexer

variable {text stop left front behind : List Char} {ps : List Placed}

/-! ### Places between lexemes and places inside of them -/

/-- Behind `front` begins a comment that is skipped: only blanks and whole comments are between it
and the lexemes in front of it. -/
def SkipsComment (text front : List Char) : Prop :=
  ∃ ps stop left gap more, Laid text ps stop left ∧ Gap gap ∧ front = stop ++ gap ∧
    trivia left = gap ++ '#' :: more

/-- A lexeme has begun in front of a place, and has not ended there. -/
def Placed.Covers (p : Placed) (front : List Char) : Prop :=
  ∃ read more, read ≠ [] ∧ more ≠ [] ∧ p.lexeme.taken = read ++ more ∧ front = p.before ++ read

/-- Behind `front` a string goes on that began before. -/
def InsideString (text front : List Char) : Prop :=
  ∃ ps stop left, Laid text ps stop left ∧
    ∃ p ∈ ps, (∃ s, p.lexeme.kind = .text s) ∧ p.Covers front

/-- Behind `front` are blanks or comments, or there is a boundary of two lexemes. The text goes on
with a lexeme, or ends. -/
def Between (text front : List Char) : Prop :=
  ∃ ps stop left gap more, Laid text ps stop left ∧ front = stop ++ gap ∧
    trivia left = gap ++ more ∧
    ∀ c cs, (spanTrivia false left).2 = c :: cs → ∃ l, lexeme c cs = .ok l

theorem Laid.between_or_covered (h : Laid text ps stop left) (hfront : front <+: text)
    (hlt : front.length < stop.length) : Between text front ∨ ∃ p ∈ ps, p.Covers front := by
  induction h with
  | start => cases hlt
  | @step ps stop left cs c l laid hskip hlexeme ih =>
    have htext := (laid.step hskip hlexeme).text_eq
    have hgap : stop ++ trivia left <+: text := ⟨l.taken ++ l.rest, by rw [htext]; simp⟩
    have htaken : stop ++ trivia left ++ l.taken <+: text := ⟨l.rest, htext.symm⟩
    by_cases hstop : front.length < stop.length
    · obtain hbetween | ⟨p, hp, hcovers⟩ := ih hstop
      · exact .inl hbetween
      · exact .inr ⟨p, List.mem_append_left _ hp, hcovers⟩
    by_cases hread : front.length ≤ (stop ++ trivia left).length
    · obtain ⟨gap, rfl⟩ := List.prefix_of_prefix_length_le ⟨left, laid.text_eq.symm⟩ hfront
        (Nat.le_of_not_lt hstop)
      obtain ⟨more, hmore⟩ := List.prefix_of_prefix_length_le hfront hgap hread
      refine .inl ⟨ps, stop, left, gap, more, laid, rfl, ?_, ?_⟩
      · exact (List.append_cancel_left ((List.append_assoc _ _ _).symm.trans hmore)).symm
      · rintro c' cs' hcs
        rw [hskip] at hcs
        cases hcs
        exact ⟨l, hlexeme⟩
    · obtain ⟨read, rfl⟩ := List.prefix_of_prefix_length_le hgap hfront (Nat.le_of_not_le hread)
      obtain ⟨more, hmore⟩ := List.prefix_of_prefix_length_le hfront htaken hlt.le
      have hsplit : l.taken = read ++ more :=
        (List.append_cancel_left ((List.append_assoc _ _ _).symm.trans hmore)).symm
      refine .inr ⟨⟨stop ++ trivia left, l⟩, by simp, read, more, ?_, ?_, hsplit, rfl⟩
      · rintro rfl
        simp at hread
      · rintro rfl
        simp [hsplit] at hlt

/-- A place of a text that has been read to its end is between two lexemes or inside of one. -/
theorem Laid.between_or_covered_of_end (h : Laid text ps stop left)
    (hend : (spanTrivia false left).2 = []) (hfront : front <+: text) :
    Between text front ∨ ∃ p ∈ ps, p.Covers front := by
  by_cases hlt : front.length < stop.length
  · exact h.between_or_covered hfront hlt
  obtain ⟨gap, rfl⟩ := List.prefix_of_prefix_length_le ⟨left, h.text_eq.symm⟩ hfront
    (Nat.le_of_not_lt hlt)
  obtain ⟨more, hmore⟩ := hfront
  refine .inl ⟨ps, stop, left, gap, more, h, rfl, ?_, ?_⟩
  · rw [h.text_eq, List.append_assoc] at hmore
    rw [trivia_eq_self hend, List.append_cancel_left hmore]
  · rintro c cs hcs
    rw [hend] at hcs
    cases hcs

/-! ### Line feeds in lexemes -/

theorem mem_value_of_mem_taken {cs value taken rest : List Char}
    (h : scanString cs = some (value, taken, rest)) (hfeed : '\n' ∈ taken) : '\n' ∈ value := by
  fun_induction scanString cs generalizing value taken rest with
  | case1 => cases h
  | case2 cs =>
    cases h
    simp at hfeed
  | case3 => cases h
  | case4 c cs ih =>
    obtain ⟨⟨v, t, r⟩, hs, he⟩ := Option.map_eq_some_iff.mp h
    cases he
    obtain hc | hc | ht : '\n' = '\\' ∨ '\n' = c ∨ '\n' ∈ t := by simpa using hfeed
    · cases hc
    · simp [← hc]
    · exact List.mem_append_right _ (ih hs ht)
  | case5 c cs _ _ _ ih =>
    obtain ⟨⟨v, t, r⟩, hs, he⟩ := Option.map_eq_some_iff.mp h
    cases he
    obtain hc | ht := List.mem_cons.mp hfeed
    · exact List.mem_cons.mpr (.inl hc)
    · exact List.mem_cons_of_mem _ (ih hs ht)

theorem not_mem_spanNumber (digits : Int32) (cs : List Char) :
    '\n' ∉ (spanNumber digits cs).1 := by
  have hdigit : Decimal.isDigit '\n' = false := rfl
  fun_induction spanNumber digits cs <;> grind

theorem not_mem_spanNumeral {c : Char} (hc : c ≠ '\n') (cs : List Char) :
    '\n' ∉ (spanNumeral c cs).1 := by
  unfold spanNumeral
  split
  · exact List.not_mem_cons_of_ne_of_not_mem hc.symm (not_mem_spanNumber 0 cs)
  · exact not_mem_spanNumber 0 (c :: cs)

/-- A lexeme that runs over several lines is a string with a line feed. -/
theorem exists_text_of_mem_taken {c : Char} {cs : List Char} {l : Lexeme}
    (h : lexeme c cs = .ok l) (hfeed : '\n' ∈ l.taken) :
    ∃ s : String, l.kind = .text s ∧ '\n' ∈ s.toList := by
  unfold lexeme at h
  split at h
  · split at h
    · rename_i value taken rest hscan
      cases h
      have htaken : '\n' ∈ taken := by simpa using hfeed
      exact ⟨_, rfl, by simpa using mem_value_of_mem_taken hscan htaken⟩
    · cases h
  · split at h
    · cases h
      simp at hfeed
    · split at h
      · rename_i hstart
        have hc : c ≠ '\n' := by
          rintro rfl
          cases hstart
        obtain ⟨-, x, -, rfl⟩ := number_eq_ok_iff.mp h
        exact absurd hfeed (not_mem_spanNumeral hc cs)
      · split at h
        · rename_i hword
          cases h
          obtain rfl | htake := List.mem_cons.mp hfeed
          · cases hword
          · cases List.mem_takeWhile_imp htake
        · split at h
          · rename_i hmark
            cases h
            obtain rfl := List.mem_singleton.mp hfeed
            cases hmark
          · cases h

/-! ### Blanks in front of a comment -/

theorem Gap.append {gap more : List Char} (h : Gap gap) (hmore : Gap more) : Gap (gap ++ more) := by
  induction h with
  | nil => exact hmore
  | blank hblank _ ih => exact .blank hblank ih
  | @comment line cs hline _ ih =>
    have happend : '#' :: (line ++ '\n' :: cs) ++ more = '#' :: (line ++ '\n' :: (cs ++ more)) := by
      simp
    exact happend ▸ .comment hline ih

/-- A line begins behind `front`. -/
def LineStart (front : List Char) : Prop := ∀ c ∈ front.getLast?, c = '\n'

theorem LineStart.of_append {front more : List Char} (h : LineStart (front ++ more)) :
    LineStart more := fun c hc => h c (by simp [Option.mem_def.mp hc])

theorem LineStart.mem {more : List Char} (h : LineStart (front ++ more)) (hmore : more ≠ []) :
    '\n' ∈ more := by
  have hlast := List.getLast?_eq_some_getLast hmore
  have hfeed : more.getLast hmore = '\n' := h.of_append _ hlast
  exact hfeed ▸ List.getLast_mem hmore

theorem LineStart.eq_feed {c : Char} (h : LineStart [c]) : c = '\n' := h c rfl

/-- Where a line begins, no comment goes on, and the comments in front of it are whole. -/
theorem gap_of_trivia (comment : Bool) {cs gap more : List Char} (hgap : LineStart gap)
    (h : (spanTrivia comment cs).1 = gap ++ more) :
    if comment then gap = [] ∨ ∃ line rest, '\n' ∉ line ∧ gap = line ++ '\n' :: rest ∧ Gap rest
    else Gap gap := by
  induction cs generalizing comment gap with
  | nil =>
    obtain rfl : gap = [] := by cases comment <;> simp_all [spanTrivia]
    cases comment
    · exact .nil
    · exact .inl rfl
  | cons c cs ih =>
    cases gap with
    | nil =>
      cases comment
      · exact .nil
      · exact .inl rfl
    | cons d gap =>
      have hfront : LineStart ([d] ++ gap) := hgap
      have hrest := hfront.of_append
      cases comment with
      | true =>
        obtain ⟨rfl, hmore⟩ := List.cons.inj h
        refine .inr ?_
        by_cases hfeed : c = '\n'
        · subst hfeed
          exact ⟨[], gap, List.not_mem_nil, rfl, ih _ hrest hmore⟩
        · have hcomment : (c != '\n') = true := by simpa using hfeed
          rw [hcomment] at hmore
          obtain rfl | ⟨line, rest, hline, rfl, hwhole⟩ := ih _ hrest hmore
          · exact absurd hgap.eq_feed hfeed
          · exact ⟨c :: line, rest,
              List.not_mem_cons_of_ne_of_not_mem (Ne.symm hfeed) hline, rfl, hwhole⟩
      | false =>
        rw [spanTrivia] at h
        split at h
        · rename_i hstart
          obtain ⟨rfl, hmore⟩ := List.cons.inj h
          by_cases hhash : c = '#'
          · subst hhash
            obtain rfl | ⟨line, rest, hline, rfl, hwhole⟩ := ih _ hrest hmore
            · cases hgap.eq_feed
            · exact .comment hline hwhole
          · have hcomment : (c == '#') = false := by simpa using hhash
            rw [hcomment] at hmore
            have hblank : c ∈ [' ', '\t', '\r', '\n'] := by
              simpa [isSpace, hcomment, or_assoc] using hstart
            exact .blank hblank (ih _ hrest hmore)
        · cases h

theorem toNat_of_isWordStart {c : Char} (h : isWordStart c = true) :
    0x41 ≤ c.toNat ∧ c.toNat ≤ 0x7A := by
  by_cases hc : c = '_'
  · rw [hc]
    decide
  · simp [isWordStart, hc, Char.le_def, UInt32.le_iff_toNat_le] at h
    have hval : c.toNat = c.val.toNat := rfl
    omega

theorem toNat_of_isDigit {c : Char} (h : Decimal.isDigit c = true) :
    0x30 ≤ c.toNat ∧ c.toNat ≤ 0x39 := by
  simp [Decimal.isDigit, Char.le_def, UInt32.le_iff_toNat_le] at h
  exact h

/-- A lexeme begins with a character that is seen. -/
theorem lexeme_first {c : Char} {cs : List Char} {l : Lexeme} (h : lexeme c cs = .ok l) :
    0x21 ≤ c.toNat ∧ c.toNat ≤ 0x7E := by
  obtain ⟨rfl, -⟩ | ⟨htaken, -⟩ | ⟨hstart, -⟩ | ⟨hword, -⟩ | ⟨-, hmark⟩ := lexeme_cases h
  · decide
  · have happend := lexeme_append h
    rw [htaken] at happend
    obtain ⟨rfl, -⟩ := List.cons.inj happend
    decide
  · obtain rfl | rfl | rfl | hdigit := hstart
    · decide
    · decide
    · decide
    · have hrange := toNat_of_isDigit hdigit
      omega
  · have hrange := toNat_of_isWordStart hword
    omega
  · unfold mark? at hmark
    split at hmark
    all_goals first | decide | cases hmark

theorem not_isBlank {c : Char} (h : 0x21 ≤ c.toNat ∧ c.toNat ≤ 0x7E) : Text.isBlank c = false := by
  simp [Text.isBlank]
  omega

/-- Blank characters in front of a comment are skipped, as no lexeme begins with one. -/
theorem gap_of_indent {indent tail : List Char} (hblank : ∀ c ∈ indent, Text.isBlank c = true)
    (hnext : ∀ c cs, (spanTrivia false (indent ++ '#' :: tail)).2 = c :: cs →
      ∃ l, lexeme c cs = .ok l) : Gap indent := by
  induction indent with
  | nil => exact .nil
  | cons c indent ih =>
    obtain ⟨hc, hindent⟩ := List.forall_mem_cons.mp hblank
    by_cases hstart : (isSpace c || c == '#') = true
    · have hhash : (c == '#') = false := by
        rw [beq_eq_false_iff_ne]
        rintro rfl
        cases hc
      have hspace : c ∈ [' ', '\t', '\r', '\n'] := by
        simpa [isSpace, hhash, or_assoc] using hstart
      refine .blank hspace (ih hindent fun c' cs' hcs => hnext c' cs' ?_)
      rw [List.cons_append, spanTrivia, if_pos hstart, hhash]
      exact hcs
    · obtain ⟨l, hl⟩ := hnext c (indent ++ '#' :: tail) (by
        rw [List.cons_append, spanTrivia, if_neg hstart])
      rw [not_isBlank (lexeme_first hl)] at hc
      cases hc

end Lexer

namespace Import

open Lexer

/-! ### Lines -/

/-- A line without its end, and the text in front of it. -/
structure Line where
  front : List Char
  text : List Char
  deriving Repr

/-- The blanks that a line begins with. -/
def Line.indent (line : Line) : List Char := line.text.takeWhile Text.isBlank

/-- What an import line contributes: the path that it names, or an error. -/
def Line.directive? (line : Line) : Option (Except SyntaxError String) :=
  (argument? line.text).map fun (size, argument) =>
    match target? (Text.trim argument) with
    | none => .error ⟨⟨(Position.behind line.front).line, size + 1⟩,
        .importTarget (String.ofList (Text.trim argument)), [.quotedPath]⟩
    | some path => .ok (String.ofList path)

/-- The lines that the pieces of a text make up, behind the text `front`. -/
def linesFrom (front : List Char) : List (List Char) → List Line
  | [] => []
  | piece :: pieces => ⟨front, Text.stripLineEnd piece⟩ :: linesFrom (front ++ piece) pieces

def lines (text : List Char) : List Line := linesFrom [] (Text.pieces text)

/-- A line feed ends the piece, and there is no other. -/
def EndsLine (piece : List Char) : Prop := ∃ line, '\n' ∉ line ∧ piece = line ++ ['\n']

/-- No piece of a text but the last one lacks its line feed. -/
theorem endsLine_of_mem_dropLast {cs piece : List Char} (h : piece ∈ (Text.pieces cs).dropLast) :
    EndsLine piece := by
  induction cs generalizing piece with
  | nil => cases h
  | cons c cs ih =>
    rw [Text.pieces] at h
    split at h
    · rename_i hfeed
      cases hpieces : Text.pieces cs with
      | nil =>
        rw [hpieces] at h
        cases h
      | cons p ps =>
        rw [hpieces, List.dropLast_cons_of_ne_nil (List.cons_ne_nil p ps), ← hpieces] at h
        obtain rfl | h := List.mem_cons.mp h
        · exact ⟨[], List.not_mem_nil, by rw [hfeed]; rfl⟩
        · exact ih h
    · rename_i hfeed
      split at h
      · cases h
      · rename_i p ps hpieces
        cases ps with
        | nil => cases h
        | cons p' ps =>
          rw [List.dropLast_cons_of_ne_nil (List.cons_ne_nil p' ps)] at h
          rw [hpieces, List.dropLast_cons_of_ne_nil (List.cons_ne_nil p' ps)] at ih
          obtain rfl | h := List.mem_cons.mp h
          · obtain ⟨line, hline, rfl⟩ := ih List.mem_cons_self
            exact ⟨c :: line, List.not_mem_cons_of_ne_of_not_mem (Ne.symm hfeed) hline, rfl⟩
          · exact ih (List.mem_cons_of_mem _ h)

theorem EndsLine.lineStart {piece : List Char} (h : EndsLine piece) (front : List Char) :
    LineStart (front ++ piece) := by
  obtain ⟨line, -, rfl⟩ := h
  rintro c hc
  simpa using hc.symm

theorem EndsLine.count {piece : List Char} (h : EndsLine piece) : piece.count '\n' = 1 := by
  obtain ⟨line, hline, rfl⟩ := h
  simp [List.count_eq_zero_of_not_mem hline]

theorem stripLineEnd_prefix_self (piece : List Char) : Text.stripLineEnd piece <+: piece := by
  unfold Text.stripLineEnd
  split
  · rename_i rest hrev
    exact ⟨['\r', '\n'], by rw [← List.reverse_reverse piece, hrev]; simp⟩
  · rename_i rest _ hrev
    exact ⟨['\n'], by rw [← List.reverse_reverse piece, hrev]; simp⟩
  · exact List.prefix_refl piece

theorem mem_linesFrom {front : List Char} {pieces : List (List Char)} {line : Line}
    (h : line ∈ linesFrom front pieces) (hfront : LineStart front)
    (hpieces : ∀ piece ∈ pieces.dropLast, EndsLine piece) :
    LineStart line.front ∧ line.front ++ line.text <+: front ++ pieces.flatten := by
  induction pieces generalizing front with
  | nil => cases h
  | cons piece pieces ih =>
    obtain rfl | h := List.mem_cons.mp h
    · refine ⟨hfront, (List.prefix_append_right_inj front).mpr ?_⟩
      exact (stripLineEnd_prefix_self piece).trans (List.prefix_append _ _)
    · cases pieces with
      | nil => cases h
      | cons next pieces =>
        rw [List.dropLast_cons_of_ne_nil (List.cons_ne_nil next pieces)] at hpieces
        obtain ⟨hpiece, hpieces⟩ := List.forall_mem_cons.mp hpieces
        have hline := ih h (hpiece.lineStart front) hpieces
        rwa [List.append_assoc, ← List.flatten_cons] at hline

theorem mem_lines {text : List Char} {line : Line} (h : line ∈ lines text) :
    LineStart line.front ∧ line.front ++ line.text <+: text := by
  have hline := mem_linesFrom h nofun fun piece => endsLine_of_mem_dropLast
  rwa [List.nil_append, Text.pieces_flatten] at hline

/-! ### Directives -/

/-- Scanning a text gathers what its lines contribute, up to the first error. -/
theorem scanLines_eq {number : Nat} {front : List Char} {pieces : List (List Char)}
    (hnumber : number = (Position.behind front).line)
    (hpieces : ∀ piece ∈ pieces.dropLast, EndsLine piece) :
    scanLines number (pieces.map Text.stripLineEnd) =
      ((linesFrom front pieces).filterMap Line.directive?).mapM id := by
  induction pieces generalizing number front with
  | nil => rfl
  | cons piece pieces ih =>
    have hrest : scanLines (number + 1) (pieces.map Text.stripLineEnd) =
        ((linesFrom (front ++ piece) pieces).filterMap Line.directive?).mapM id := by
      cases pieces with
      | nil => rfl
      | cons next pieces =>
        rw [List.dropLast_cons_of_ne_nil (List.cons_ne_nil next pieces)] at hpieces
        obtain ⟨hpiece, hpieces⟩ := List.forall_mem_cons.mp hpieces
        refine ih ?_ hpieces
        simp [hnumber, Position.behind, hpiece.count, Nat.add_assoc]
    rw [List.map_cons, scanLines, linesFrom, List.filterMap_cons, Line.directive?, hrest]
    cases argument? (Text.stripLineEnd piece) with
    | none => rfl
    | some found =>
      obtain ⟨size, argument⟩ := found
      cases htarget : target? (Text.trim argument) with
      | none => simp [htarget, hnumber, bind, Except.bind]
      | some path =>
        simp only [Option.map_some, htarget, List.mapM_cons, id]
        cases ((linesFrom (front ++ piece) pieces).filterMap Line.directive?).mapM id <;> rfl

theorem scan_eq (source : String) :
    scan source = ((lines source.toList).filterMap Line.directive?).mapM id :=
  scanLines_eq rfl fun _ => endsLine_of_mem_dropLast

/-- An import line begins with blanks, and with the word for an import behind them. -/
theorem Line.text_eq {line : Line} (h : line.directive?.isSome) :
    ∃ argument, line.text = line.indent ++ (directive ++ argument) := by
  obtain ⟨found, hfound⟩ := Option.isSome_iff_exists.mp (Option.isSome_map ▸ h)
  unfold argument? at hfound
  simp only at hfound
  cases hafter : Text.after? directive (Text.trimStart line.text) with
  | none =>
    rw [hafter] at hfound
    cases hfound
  | some argument =>
    rw [Text.after?] at hafter
    split at hafter
    · rename_i hprefix
      obtain ⟨argument, hdirective⟩ := List.isPrefixOf_iff_prefix.mp hprefix
      refine ⟨argument, ?_⟩
      rw [hdirective, Text.trimStart, Line.indent, List.takeWhile_append_dropWhile]
    · cases hafter

theorem Line.isBlank_of_mem_indent {line : Line} : ∀ c ∈ line.indent, Text.isBlank c = true :=
  fun _ => List.mem_takeWhile_imp

/-- An import line of a text that has been read is a comment, or begins inside of a lexeme. -/
theorem Line.comment_or_covered {text stop left : List Char} {ps : List Placed}
    (hlaid : Laid text ps stop left) (hend : (spanTrivia false left).2 = []) {line : Line}
    (hline : line ∈ lines text) (hdirective : line.directive?.isSome) :
    SkipsComment text (line.front ++ line.indent) ∨
      ∃ p ∈ ps, p.Covers line.front ∧ ∃ s : String, p.lexeme.kind = .text s ∧ '\n' ∈ s.toList := by
  obtain ⟨hstart, htext⟩ := mem_lines hline
  obtain ⟨argument, hargument⟩ := line.text_eq hdirective
  have hfront : line.front <+: text := (List.prefix_append _ _).trans htext
  obtain hbetween | ⟨p, hp, hcovers⟩ := hlaid.between_or_covered_of_end hend hfront
  · left
    obtain ⟨ps', stop', left', gap, more, hlaid', hplace, htrivia, hnext⟩ := hbetween
    have hgap : Gap gap := gap_of_trivia false (hplace ▸ hstart).of_append htrivia
    obtain ⟨behind, hbehind⟩ := htext
    let tail := directive.tail ++ (argument ++ behind)
    have hword : directive = '#' :: directive.tail := rfl
    have hleft : left' = gap ++ (line.indent ++ '#' :: tail) := by
      rw [hplace, hargument, hlaid'.text_eq, hword] at hbehind
      simpa [tail] using hbehind.symm
    have hskip := hgap.spanTrivia_append (line.indent ++ '#' :: tail)
    rw [← hleft] at hskip
    rw [hskip] at hnext
    have hindent : Gap line.indent := gap_of_indent line.isBlank_of_mem_indent hnext
    refine ⟨ps', stop', left', gap ++ line.indent, (spanTrivia true tail).1, hlaid',
      hgap.append hindent, by rw [hplace, List.append_assoc], ?_⟩
    rw [trivia, hskip, hindent.spanTrivia_append, List.append_assoc]
    rfl
  · right
    refine ⟨p, hp, hcovers, ?_⟩
    obtain ⟨-, c, cs, hlexeme⟩ := hlaid.placed hp
    obtain ⟨read, more, hread, -, htaken, hplace⟩ := hcovers
    have hfeed : '\n' ∈ read := (hplace ▸ hstart).mem hread
    exact exists_text_of_mem_taken hlexeme (htaken ▸ List.mem_append_left more hfeed)

/-- Imports, and errors about them, come from the lines of a text, and in a text that has tokens
from those lines only whose word for an import begins a comment that is skipped, or that begin
inside of a string. Where no string holds a line feed they come from comments only. -/
theorem directives_in_comments_or_strings {source : String} {tokens : List Token}
    (htokens : tokenize source = .ok tokens) :
    scan source = ((lines source.toList).filterMap Line.directive?).mapM id ∧
    (∀ line ∈ lines source.toList, line.directive?.isSome →
      SkipsComment source.toList (line.front ++ line.indent) ∨
        InsideString source.toList line.front) ∧
    ((∀ t ∈ tokens, ∀ s : String, t.kind = .text s → '\n' ∉ s.toList) →
      ∀ line ∈ lines source.toList, line.directive?.isSome →
        SkipsComment source.toList (line.front ++ line.indent)) := by
  obtain ⟨ps, stop, left, hlaid, hend, rfl⟩ := Laid.start.exists_of_ok htokens
  refine ⟨scan_eq source, fun line hline hdirective => ?_, fun hstrings line hline hdirective => ?_⟩
  · obtain hcomment | ⟨p, hp, hcovers, s, hkind, -⟩ :=
      line.comment_or_covered hlaid hend hline hdirective
    · exact .inl hcomment
    · exact .inr ⟨ps, stop, left, hlaid, p, hp, ⟨s, hkind⟩, hcovers⟩
  · obtain hcomment | ⟨p, hp, -, s, hkind, hfeed⟩ :=
      line.comment_or_covered hlaid hend hline hdirective
    · exact hcomment
    · have htoken : p.token ∈ ps.map Placed.token := List.mem_map_of_mem hp
      exact absurd hfeed (hstrings p.token (List.mem_append_left _ htoken) s hkind)

/-- An import in front of the rules. -/
theorem directives_in_comments_or_strings_front : ∃ tokens,
    tokenize "  #import \"b\"\na => f();" = .ok tokens ∧
    scan "  #import \"b\"\na => f();" = .ok ["b"] ∧
    ∀ line ∈ lines "  #import \"b\"\na => f();".toList, line.directive?.isSome →
      SkipsComment "  #import \"b\"\na => f();".toList (line.front ++ line.indent) := by
  have htokens : tokenize "  #import \"b\"\na => f();" = .ok [⟨.name "a", ⟨2, 1⟩⟩,
      ⟨.arrow, ⟨2, 3⟩⟩, ⟨.name "f", ⟨2, 6⟩⟩, ⟨.leftParen, ⟨2, 7⟩⟩, ⟨.rightParen, ⟨2, 8⟩⟩,
      ⟨.semicolon, ⟨2, 9⟩⟩, ⟨.endOfFile, ⟨2, 10⟩⟩] := by cbv
  have hscan : scan "  #import \"b\"\na => f();" = .ok ["b"] := by cbv
  exact ⟨_, htokens, hscan, (directives_in_comments_or_strings htokens).2.2 (by simp)⟩

/-- A line inside of a string makes parsing fail, although the text has tokens and they make up a
rule. -/
theorem directive_inside_string :
    let source := "a => f(x=\"\n#import b\n\");"
    let e : SyntaxError := ⟨⟨2, 8⟩, .importTarget "b", [.quotedPath]⟩
    ∃ line ∈ lines source.toList, InsideString source.toList line.front ∧
      line.directive? = some (.error e) ∧ RuleFile.parse ⟨"m.rules"⟩ source = .error e ∧
      ∃ tokens rules, tokenize source = .ok tokens ∧ Parser.file tokens = .ok rules := by
  intro source e
  let line : Line := ⟨"a => f(x=\"\n".toList, "#import b".toList⟩
  have hinside : InsideString "a => f(x=\"\n#import b\n\");".toList line.front := by
    -- six lexemes stand in front of the string
    refine ⟨_, _, _, .step (.step (.step (.step (.step (.step (.step .start rfl rfl) rfl rfl)
      rfl rfl) rfl rfl) rfl rfl) rfl rfl) rfl rfl, ?_⟩
    exact ⟨_, List.mem_append_right _ (List.mem_singleton.mpr rfl), ⟨_, rfl⟩, "\"\n".toList,
      "#import b\n\"".toList, by simp, by simp, rfl, rfl⟩
  let param : Grammar.Param := ⟨⟨"x", ⟨1, 8⟩⟩, ⟨1, 9⟩, .text "\n#import b\n" ⟨1, 10⟩⟩
  let node : Grammar.Node :=
    .last (.filter none ⟨"f", ⟨1, 6⟩⟩ ⟨1, 7⟩ (some ⟨param, []⟩) ⟨3, 2⟩)
  let d : Grammar.File := ⟨[⟨⟨"a", ⟨1, 1⟩⟩, ⟨1, 3⟩, .node node, ⟨3, 3⟩⟩], ⟨3, 4⟩⟩
  have htokens : tokenize source = .ok d.tokens := by cbv
  have hscan : scan source = .error e := by cbv
  have hparse : RuleFile.parse ⟨"m.rules"⟩ source = .error e := by
    rw [RuleFile.parse, hscan]
    rfl
  have hlines : lines "a => f(x=\"\n#import b\n\");".toList = [⟨[], "a => f(x=\"".toList⟩, line,
      ⟨"a => f(x=\"\n#import b\n".toList, "\");".toList⟩] := rfl
  have hline : line ∈ lines source.toList := hlines ▸ List.mem_cons_of_mem _ List.mem_cons_self
  exact ⟨line, hline, hinside, rfl, hparse, d.tokens, d.toRules, htokens, Parser.file_tokens d⟩

end Import
end RuleGraph
