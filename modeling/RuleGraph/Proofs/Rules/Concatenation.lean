import Mathlib
import RuleGraph.Proofs.Import.Directives
import RuleGraph.Proofs.Rules.Moving

/-!
# Texts behind one another

Two rule texts with a line feed between them are read as the one and then the other. No text that
is read ends inside of a string or of a rule, and the line feed ends a comment or an import at the
end of the first text. The rules of the second one stand as many lines further down as there are
line feeds in front of it.
-/
namespace RuleGraph

namespace Lexer

/-! ### Lexemes in front of further text -/

theorem spanTrivia_more {comment : Bool} {cs rest : List Char} {c : Char}
    (h : (spanTrivia comment cs).2 = c :: rest) (more : List Char) :
    spanTrivia comment (cs ++ more) = ((spanTrivia comment cs).1, c :: (rest ++ more)) := by
  induction cs generalizing comment with
  | nil => cases comment <;> cases h
  | cons d cs ih =>
    cases comment with
    | true =>
      have hrest := ih h
      simp [spanTrivia, hrest]
    | false =>
      rw [spanTrivia] at h
      rw [List.cons_append, spanTrivia, spanTrivia]
      split at h
      · rename_i hstart
        rw [if_pos hstart, if_pos hstart, ih h]
      · rename_i hstart
        cases h
        rw [if_neg hstart, if_neg hstart]

theorem spanTrivia_feed {comment : Bool} {cs : List Char} (h : (spanTrivia comment cs).2 = []) :
    (spanTrivia comment (cs ++ ['\n'])).2 = [] := by
  induction cs generalizing comment with
  | nil => cases comment <;> rfl
  | cons c cs ih =>
    cases comment with
    | true => exact ih h
    | false =>
      rw [spanTrivia] at h
      split at h
      · rename_i hstart
        rw [List.cons_append, spanTrivia, if_pos hstart]
        exact ih h
      · cases h

/-- A line feed ends the comment in which a text may end. -/
theorem gap_of_skipped {cs : List Char} (h : (spanTrivia false cs).2 = []) :
    Gap (cs ++ ['\n']) := by
  have hstart : LineStart (cs ++ ['\n']) := by simp [LineStart]
  have htrivia : trivia (cs ++ ['\n']) = cs ++ ['\n'] := trivia_eq_self (spanTrivia_feed h)
  exact gap_of_trivia false hstart (htrivia.trans (List.append_nil _).symm)

theorem scanString_more {cs value taken rest : List Char}
    (h : scanString cs = some (value, taken, rest)) (more : List Char) :
    scanString (cs ++ more) = some (value, taken, rest ++ more) := by
  fun_induction scanString cs generalizing value taken rest with
  | case1 => cases h
  | case2 cs =>
    cases h
    rfl
  | case3 => cases h
  | case4 c cs ih =>
    obtain ⟨⟨v, t, r⟩, hs, he⟩ := Option.map_eq_some_iff.mp h
    cases he
    simp [scanString, ih hs]
  | case5 c cs hquote hend hslash ih =>
    obtain ⟨⟨v, t, r⟩, hs, he⟩ := Option.map_eq_some_iff.mp h
    cases he
    have hc : c ≠ '\\' := by
      rintro rfl
      cases cs with
      | nil => exact hend rfl rfl
      | cons d ds => exact hslash d ds rfl rfl
    simp [scanString, hc, ih hs]

variable {more : List Char}

theorem spanNumber_more (hmore : Parted more) (digits : Int32) (cs : List Char) :
    spanNumber digits (cs ++ more) = ((spanNumber digits cs).1,
      (spanNumber digits cs).2.1 ++ more, (spanNumber digits cs).2.2) := by
  fun_induction spanNumber digits cs with
  | case1 digits => rw [List.nil_append, spanNumber_parted digits hmore]
  | case2 digits c cs hdigit taken rest hspan ih =>
    rw [List.cons_append, spanNumber_digit digits (isDigit_eq c ▸ hdigit), ih, hspan]
  | case3 digits cs taken rest hspan hdigit ih =>
    rw [List.cons_append, spanNumber_point, ih, hspan]
  | case4 digits c hdigit hpoint hletter =>
    -- the sign of an exponent would be a part of the number
    cases more with
    | nil => simp [spanNumber, hdigit, hpoint, hletter]
    | cons d more =>
      have hsign : ¬(d = '-' ∨ d = '+') := by
        rintro (rfl | rfl) <;> exact absurd (hmore _ rfl) (by decide)
      have hrest := spanNumber_parted digits hmore
      simp [spanNumber, hdigit, hpoint, hletter, hsign, hrest]
  | case5 digits c hdigit hpoint hletter d ds hsign taken rest hspan ih =>
    simp_all [spanNumber]
  | case6 digits c hdigit hpoint hletter d ds hsign taken rest hspan ih =>
    simp_all [spanNumber]
  | case7 digits c cs hdigit hpoint hletter =>
    cases h : cs ++ more <;> simp [spanNumber, h, hdigit, hpoint, hletter]

theorem spanNumeral_more (hmore : Parted more) (c : Char) (cs : List Char) :
    spanNumeral c (cs ++ more) = ((spanNumeral c cs).1,
      (spanNumeral c cs).2.1 ++ more, (spanNumeral c cs).2.2) := by
  unfold spanNumeral
  split
  · rw [spanNumber_more hmore]
  · exact spanNumber_more hmore 0 (c :: cs)

theorem number_more {c : Char} {cs : List Char} {l : Lexeme} (h : number c cs = .ok l)
    (hmore : Parted more) :
    number c (cs ++ more) = .ok { l with rest := l.rest ++ more } := by
  obtain ⟨hdigits, x, hread, rfl⟩ := number_eq_ok_iff.mp h
  apply number_eq_ok_iff.mpr
  rw [spanNumeral_more hmore]
  exact ⟨hdigits, x, hread, rfl⟩

theorem word_more (hmore : Parted more) (cs : List Char) :
    (cs ++ more).takeWhile isWordPart = cs.takeWhile isWordPart ∧
      (cs ++ more).dropWhile isWordPart = cs.dropWhile isWordPart ++ more := by
  induction cs with
  | nil => exact takeWhile_parted hmore fun _ => IsGapStart.not_isWordPart
  | cons c cs ih =>
    cases hc : isWordPart c <;> simp [hc, ih]

theorem head?_more (hmore : Parted more) (cs : List Char) :
    ((cs ++ more).head? == some '>') = (cs.head? == some '>') := by
  cases cs with
  | nil =>
    have hnot : more.head? ≠ some '>' := fun h => absurd (hmore '>' h) (by decide)
    simpa using hnot
  | cons => rfl

/-- A lexeme does not change when more text follows that is parted from it. -/
theorem lexeme_more {c : Char} {cs : List Char} {l : Lexeme} (h : lexeme c cs = .ok l)
    (hmore : Parted more) :
    lexeme c (cs ++ more) = .ok { l with rest := l.rest ++ more } := by
  unfold lexeme at h ⊢
  rw [head?_more hmore]
  split at h
  · rename_i hquote
    rw [if_pos hquote]
    split at h
    · rename_i hscan
      cases h
      rw [scanString_more hscan]
    · cases h
  · rename_i hquote
    rw [if_neg hquote]
    split at h
    · rename_i harrow
      rw [if_pos harrow]
      cases h
      cases cs with
      | nil => simp at harrow
      | cons => rfl
    · rename_i harrow
      rw [if_neg harrow]
      split at h
      · rename_i hstart
        rw [if_pos hstart]
        exact number_more h hmore
      · rename_i hstart
        rw [if_neg hstart]
        split at h
        · rename_i hword
          cases h
          rw [if_pos hword, (word_more hmore cs).1, (word_more hmore cs).2]
        · rename_i hword
          rw [if_neg hword]
          split at h
          · cases h
            rfl
          · cases h

/-! ### Tokens behind a text -/

theorem tokensFrom_gap {gap cs : List Char} (hgap : Gap gap) {pos : Position} {tokens : List Token}
    (h : tokensFrom (pos.after gap) cs = .ok tokens) :
    tokensFrom pos (gap ++ cs) = .ok tokens := by
  have hskip := hgap.spanTrivia_append cs
  have hpos : pos.after (spanTrivia false (gap ++ cs)).1 =
      (pos.after gap).after (spanTrivia false cs).1 := by
    rw [hskip, Position.after_append]
  rw [tokensFrom] at h
  split at h
  · rename_i hr
    cases h
    rw [tokensFrom_done (by rw [hskip, hr]), hpos]
  · rename_i hr
    split at h
    · cases h
    · rename_i hl
      split at h
      · cases h
      · rename_i hts
        cases h
        rw [← hpos] at hts ⊢
        exact tokensFrom_step (by rw [hskip, hr]) hl hts

theorem tokensFrom_ne_nil {pos : Position} {cs : List Char} {tokens : List Token}
    (h : tokensFrom pos cs = .ok tokens) : tokens ≠ [] := by
  obtain ⟨ls, -, hkinds⟩ := tokensFrom_lexemes h
  rintro rfl
  simp at hkinds

/-- The tokens of the two texts; there is no end of the first one. -/
theorem tokensFrom_append {pos : Position} {as bs : List Char} {ts us : List Token}
    (has : tokensFrom pos as = .ok ts) (hbs : tokensFrom (pos.after (as ++ ['\n'])) bs = .ok us) :
    tokensFrom pos (as ++ '\n' :: bs) = .ok (ts.dropLast ++ us) := by
  fun_induction tokensFrom pos as generalizing ts with
  | case1 =>
    -- what is left of the first text is a gap, as the line feed ends its last comment
    rename_i hskip
    cases has
    rw [List.append_cons]
    exact tokensFrom_gap (gap_of_skipped hskip) hbs
  | case2 => cases has
  | case3 => cases has
  | case4 pos as here c cs =>
    rename_i hskip l hlexeme ts hts ih
    cases has
    have hmore : Parted ('\n' :: bs) := by
      rintro c ⟨⟩
      decide
    have hplace : pos.after (as ++ ['\n']) = (here.after l.taken).after (l.rest ++ ['\n']) := by
      rw [← trivia_append hskip, ← lexeme_append hlexeme]
      simp only [Position.after_append]
      rfl
    have hrest := ih hts (hplace ▸ hbs)
    have hskip' := spanTrivia_more hskip ('\n' :: bs)
    have hhere : pos.after (spanTrivia false (as ++ '\n' :: bs)).1 = here := by rw [hskip']
    rw [List.dropLast_cons_of_ne_nil (tokensFrom_ne_nil hts)]
    rw [← hhere] at hrest ⊢
    exact tokensFrom_step (congrArg Prod.snd hskip') (lexeme_more hlexeme hmore) hrest

end Lexer

namespace Import

/-! ### Import lines behind a text -/

/-- The target of a line, if it is an import line; it may be missing there. -/
def named? (line : List Char) : Option (Option String) :=
  (argument? line).map fun a => (target? (Text.trim a.2)).map String.ofList

/-- Lines are read when every import line among them has a target. -/
theorem scanLines_eq_ok_iff {number : Nat} {lines : List (List Char)} {targets : List String} :
    scanLines number lines = .ok targets ↔ lines.filterMap named? = targets.map some := by
  induction lines generalizing number targets with
  | nil => cases targets <;> simp [scanLines]
  | cons line lines ih =>
    rw [scanLines, List.filterMap_cons, named?]
    cases argument? line with
    | none => exact ih
    | some found =>
      simp only [Option.map_some]
      cases target? (Text.trim found.2) with
      | none => cases targets <;> simp
      | some path =>
        simp only [Option.map_some]
        cases targets with
        | nil =>
          cases scanLines (number + 1) lines <;> simp
        | cons target targets =>
          have hrest := @ih (number + 1) targets
          rw [List.map_cons, List.cons.injEq, Option.some.injEq, ← hrest]
          cases scanLines (number + 1) lines <;> simp

theorem pieces_cons_line {line : List Char} (hline : '\n' ∉ line) (rest : List Char) :
    Text.pieces (line ++ '\n' :: rest) = (line ++ ['\n']) :: Text.pieces rest := by
  induction line with
  | nil => simp [Text.pieces]
  | cons c line ih =>
    obtain ⟨hc, hline⟩ := not_or.mp (List.mem_cons.not.mp hline)
    rw [List.cons_append, Text.pieces, if_neg (Ne.symm hc), ih hline]
    rfl

theorem pieces_line {line : List Char} (hline : '\n' ∉ line) :
    Text.pieces line = if line = [] then [] else [line] := by
  induction line with
  | nil => rfl
  | cons c line ih =>
    obtain ⟨hc, hline⟩ := not_or.mp (List.mem_cons.not.mp hline)
    rw [Text.pieces, if_neg (Ne.symm hc), ih hline]
    cases line <;> rfl

theorem trimStart_concat {c : Char} (hc : Text.isBlank c = true) (cs : List Char) :
    Text.trimStart (cs ++ [c]) =
      if Text.trimStart cs = [] then [] else Text.trimStart cs ++ [c] := by
  rw [Text.trimStart, List.dropWhile_append, Text.trimStart]
  simp [hc]

theorem trim_concat {c : Char} (hc : Text.isBlank c = true) (cs : List Char) :
    Text.trim (cs ++ [c]) = Text.trim cs := by
  rw [Text.trim, Text.trim, trimStart_concat hc]
  split
  · rename_i hnil
    rw [hnil]
  · simp [Text.trimEnd, hc]

theorem after?_concat {mark : List Char} {c : Char} (hc : c ∉ mark) (cs : List Char) :
    Text.after? mark (cs ++ [c]) = (Text.after? mark cs).map (· ++ [c]) := by
  have hbegins : mark <+: cs ++ [c] ↔ mark <+: cs := by
    rw [List.prefix_concat_iff, or_iff_right]
    rintro rfl
    simp at hc
  unfold Text.after?
  by_cases h : mark <+: cs
  · have hlength := h.length_le
    simp [List.isPrefixOf_iff_prefix, hbegins, h, List.drop_append_of_le_length hlength]
  · simp [List.isPrefixOf_iff_prefix, hbegins, h]

/-- A carriage return at the end of a line makes no difference. -/
theorem named?_return (line : List Char) : named? (line ++ ['\r']) = named? line := by
  have hblank : Text.isBlank '\r' = true := rfl
  unfold named? argument?
  simp only [trimStart_concat hblank]
  split_ifs with hnil
  · rw [hnil]
    rfl
  · rw [after?_concat (by decide)]
    cases Text.after? directive (Text.trimStart line) with
    | none => rfl
    | some rest =>
      cases rest with
      | nil => rfl
      | cons c rest =>
        have htrim := trim_concat hblank (c :: rest)
        by_cases hc : Text.isBlank c = true
        · simpa [hc] using congrArg (Option.map String.ofList ∘ target?) htrim
        · simp [hc]

/-- A line feed at the end of a line makes no difference. -/
theorem named?_stripLineEnd {line : List Char} (hline : '\n' ∉ line) :
    named? (Text.stripLineEnd line) = named? line ∧
      named? (Text.stripLineEnd (line ++ ['\n'])) = named? line := by
  constructor
  · have hstrip : Text.stripLineEnd line = line := by
      unfold Text.stripLineEnd
      split
      · rename_i hrev
        exact absurd (List.mem_reverse.mp (hrev ▸ List.mem_cons_self)) hline
      · rename_i hrev
        exact absurd (List.mem_reverse.mp (hrev ▸ List.mem_cons_self)) hline
      · rfl
    rw [hstrip]
  · unfold Text.stripLineEnd
    rw [List.reverse_concat]
    split
    · rename_i rest hrev
      have hreturn : line = rest.reverse ++ ['\r'] := by
        rw [← List.reverse_reverse line, (List.cons.inj hrev).2, List.reverse_cons]
      rw [hreturn, named?_return]
    · rename_i rest _ hrev
      rw [← (List.cons.inj hrev).2, List.reverse_reverse]
    · rename_i hrev
      exact absurd rfl (hrev _)

/-- The import lines of the two texts. -/
theorem filterMap_named?_append (as bs : List Char) :
    (Text.lines (as ++ '\n' :: bs)).filterMap named? =
      (Text.lines as).filterMap named? ++ (Text.lines bs).filterMap named? := by
  by_cases hfeed : '\n' ∈ as
  · obtain ⟨line, rest, rfl, hline⟩ := List.eq_append_cons_of_mem hfeed
    have hrest := filterMap_named?_append rest bs
    rw [List.append_assoc, List.cons_append, Text.lines, Text.lines, pieces_cons_line hline,
      pieces_cons_line hline, List.map_cons, List.map_cons, ← Text.lines, ← Text.lines,
      ← List.singleton_append, List.filterMap_append, hrest, ← List.append_assoc,
      ← List.filterMap_append]
    rfl
  · obtain ⟨hwhole, hended⟩ := named?_stripLineEnd hfeed
    have hone (line : List Char) : [line].filterMap named? = (named? line).toList := by
      rw [List.filterMap_cons]
      cases named? line <;> rfl
    have hleft : (Text.lines as).filterMap named? = (named? as).toList := by
      rw [Text.lines, pieces_line hfeed]
      split_ifs with hnil
      · rw [hnil]
        rfl
      · rw [List.map_singleton, hone, hwhole]
    rw [hleft, Text.lines, pieces_cons_line hfeed, List.map_cons, ← Text.lines,
      ← List.singleton_append, List.filterMap_append, hone, hended]
termination_by as.length

theorem scan_append {a b : String} {as bs : List String} (ha : scan a = .ok as)
    (hb : scan b = .ok bs) : scan (a ++ "\n" ++ b) = .ok (as ++ bs) := by
  have htext : (a ++ "\n" ++ b).toList = a.toList ++ '\n' :: b.toList := by simp
  rw [scan, scanLines_eq_ok_iff] at ha hb ⊢
  rw [htext, filterMap_named?_append, ha, hb, List.map_append]

end Import

/-! ### Rule files -/

namespace Parser

/-- The only derivation of what is read of a text. -/
theorem exists_derivation {pos : Position} {cs : List Char} {tokens : List Token}
    {rules : List Rule} (htokens : Lexer.tokensFrom pos cs = .ok tokens)
    (hfile : file tokens = .ok rules) :
    ∃ d : Grammar.File, d.tokens = tokens ∧ d.toRules = rules := by
  obtain ⟨ls, hls, hkinds⟩ := Lexer.tokensFrom_lexemes htokens
  obtain ⟨ts, pos, rfl, hts⟩ := hls.endOfFile_last hkinds
  obtain ⟨d, rest, rfl, heq⟩ := exists_file hfile
  rw [rest_eq_nil hts heq, List.append_nil] at heq
  exact ⟨d, heq.symm, rfl⟩

/-- The rules of two token lists, behind one another. -/
theorem file_append (d e : Grammar.File) :
    file (d.tokens.dropLast ++ e.tokens) = .ok (d.toRules ++ e.toRules) := by
  let both : Grammar.File := ⟨d.rules ++ e.rules, e.endOfFile⟩
  have htokens : d.tokens.dropLast ++ e.tokens = both.tokens := by
    simp [Grammar.File.tokens, both]
  rw [htokens, file_tokens]
  simp [Grammar.File.toRules, both]

end Parser

theorem Position.after_feed (cs : List Char) :
    start.after (cs ++ ['\n']) = start.down (1 + cs.count '\n') := by
  rw [start_after, behind]
  simp [start, down]
  omega

namespace RuleFile

variable {path : Path} {source a b : String} {f fa fb : RuleFile}

theorem parse_eq_ok_iff : parse path source = .ok f ↔ ∃ targets tokens rules,
    Import.scan source = .ok targets ∧ tokenize source = .ok tokens ∧
      Parser.file tokens = .ok rules ∧ f = ⟨path, targets.map (Import.resolve path), rules⟩ := by
  constructor
  · intro h
    obtain ⟨targets, hscan, h⟩ := Parser.bind_eq_ok h
    obtain ⟨tokens, htokens, h⟩ := Parser.bind_eq_ok h
    obtain ⟨rules, hrules, h⟩ := Parser.bind_eq_ok h
    cases h
    exact ⟨targets, tokens, rules, hscan, htokens, hrules, rfl⟩
  · rintro ⟨targets, tokens, rules, hscan, htokens, hrules, rfl⟩
    exact Parser.bind_eq_ok_iff.mpr ⟨targets, hscan, Parser.bind_eq_ok_iff.mpr
      ⟨tokens, htokens, Parser.bind_eq_ok_iff.mpr ⟨rules, hrules, rfl⟩⟩⟩

/-- Numbers of 32 bits hold the places of rules in a text that they can count. -/
theorem pos_lt (h : parse path source = .ok f) (hlength : source.length < 2 ^ 32) {r : Rule}
    (hr : r ∈ f.rules) : r.pos.line < 2 ^ 32 ∧ r.pos.column < 2 ^ 32 := by
  obtain ⟨targets, tokens, rules, -, htokens, hrules, rfl⟩ := parse_eq_ok_iff.mp h
  obtain ⟨d, rfl, rfl⟩ := Parser.exists_derivation htokens hrules
  obtain ⟨R, hR, rfl⟩ := List.mem_map.mp hr
  have hname : R.name.token ∈ d.tokens :=
    List.mem_append_left _ (List.mem_flatMap.mpr ⟨R, hR, List.mem_cons_self⟩)
  obtain ⟨ps, stop, left, hlaid, -, heq⟩ := Lexer.Laid.start.exists_of_ok htokens
  rw [heq, List.mem_append, List.mem_map, List.mem_singleton] at hname
  obtain ⟨p, hp, hpname⟩ | hend := hname
  · obtain ⟨htext, c, cs, hlexeme⟩ := hlaid.placed hp
    have htaken := List.length_pos_iff.mpr (Lexer.lexeme_taken_ne_nil hlexeme)
    have hbefore : p.before.length < 2 ^ 32 - 1 := by
      rw [← String.length_toList, htext, List.length_append, List.length_append] at hlength
      omega
    have hpos : R.toRule.pos = Position.behind p.before := congrArg Token.pos hpname.symm
    obtain ⟨hline, hcolumn⟩ := Lexer.Counters.ofPosition_behind hbefore
    rw [hpos, ← hline, ← hcolumn]
    exact ⟨UInt32.toNat_lt _, UInt32.toNat_lt _⟩
  · cases congrArg Token.kind hend

/-- Rule files may be put behind one another, with a line feed between them. Imports and rules are
those of the first and then those of the second, and only the places of the latter are others: they
are as many lines further down as there are line feeds in front. -/
theorem parse_joined (ha : parse path a = .ok fa) (hb : parse path b = .ok fb) :
    let down := Position.down (1 + a.toList.count '\n')
    let joined : RuleFile :=
      ⟨path, fa.imports ++ fb.imports, fa.rules ++ fb.rules.map (Rule.move down)⟩
    parse path (a ++ "\n" ++ b) = .ok joined ∧
      (a.length + b.length < 2 ^ 32 - 1 →
        ∀ r ∈ joined.rules, r.pos.line < 2 ^ 32 ∧ r.pos.column < 2 ^ 32) := by
  intro down joined
  have hjoined : parse path (a ++ "\n" ++ b) = .ok joined := by
    obtain ⟨targets, tokens, rules, hscan, htokens, hrules, rfl⟩ := parse_eq_ok_iff.mp ha
    obtain ⟨targets', tokens', rules', hscan', htokens', hrules', rfl⟩ := parse_eq_ok_iff.mp hb
    obtain ⟨d, rfl, rfl⟩ := Parser.exists_derivation htokens hrules
    obtain ⟨e, rfl, rfl⟩ := Parser.exists_derivation htokens' hrules'
    have hmoved : Lexer.tokensFrom (Position.start.after (a.toList ++ ['\n'])) b.toList =
        .ok (e.move down).tokens := by
      rw [Position.after_feed, e.tokens_move]
      exact Lexer.tokensFrom_down _ htokens'
    have hboth : tokenize (a ++ "\n" ++ b) =
        .ok (d.tokens.dropLast ++ (e.move down).tokens) := by
      have htext : (a ++ "\n" ++ b).toList = a.toList ++ '\n' :: b.toList := by simp
      rw [tokenize, htext]
      exact Lexer.tokensFrom_append htokens hmoved
    refine parse_eq_ok_iff.mpr ⟨_, _, _, Import.scan_append hscan hscan', hboth,
      Parser.file_append d (e.move down), ?_⟩
    rw [List.map_append, e.toRules_move]
  refine ⟨hjoined, fun hlength r hr => pos_lt hjoined ?_ hr⟩
  simp only [String.length_append]
  have hfeed : "\n".length = 1 := rfl
  omega

/-- A comment and a carriage return at the end of the first text, an import in the second. -/
theorem parse_joined_comment :
    let path : Path := ⟨"d/m.rules"⟩
    let a := "#import \"x\"\na => f(); # end\r"
    let b := "b => @a;\n#import \"/y\""
    parse path (a ++ "\n" ++ b) = .ok ⟨path, [⟨"d/x"⟩, ⟨"/y"⟩],
      [⟨"a", ⟨2, 1⟩, .fragment (.filter "f" [] false) []⟩,
        ⟨"b", ⟨3, 1⟩, .fragment (.call "a") []⟩]⟩ := by
  intro path a b
  let d : Grammar.File := ⟨[⟨⟨"a", ⟨2, 1⟩⟩, ⟨2, 3⟩,
    .node (.last (.filter none ⟨"f", ⟨2, 6⟩⟩ ⟨2, 7⟩ none ⟨2, 8⟩)), ⟨2, 9⟩⟩], ⟨2, 17⟩⟩
  let e : Grammar.File := ⟨[⟨⟨"b", ⟨1, 1⟩⟩, ⟨1, 3⟩,
    .node (.last (.call ⟨1, 6⟩ ⟨"a", ⟨1, 7⟩⟩)), ⟨1, 8⟩⟩], ⟨2, 13⟩⟩
  have hx : Import.resolve path "x" = ⟨"d/x"⟩ := by decide
  have ha : parse path a = .ok ⟨path, [⟨"d/x"⟩], d.toRules⟩ :=
    parse_eq_ok_iff.mpr ⟨["x"], d.tokens, d.toRules, by cbv, by cbv, Parser.file_tokens d, by
      rw [List.map_singleton, hx]⟩
  have hb : parse path b = .ok ⟨path, [⟨"/y"⟩], e.toRules⟩ :=
    parse_eq_ok_iff.mpr ⟨["/y"], e.tokens, e.toRules, by cbv, by cbv, Parser.file_tokens e, rfl⟩
  have hfeeds : a.toList.count '\n' = 1 := by decide
  have hjoined := (parse_joined ha hb).1
  rw [hfeeds] at hjoined
  exact hjoined

end RuleFile
end RuleGraph
