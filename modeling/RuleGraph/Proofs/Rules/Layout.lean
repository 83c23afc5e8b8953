import Mathlib
import RuleGraph.Proofs.Rules.Spelling

/-!
# Where tokens stand

The position of a token, or of a fault in the spelling, is that of its first character: one more
than the line feeds in front of it, and one more than the characters since the last of them. It can
be counted byte by byte with counters of 32 bits, in which the bytes that continue a character do
not count.
-/
namespace RuleGraph

namespace Position

/-- The position behind the characters `before` of a text. -/
def behind (before : List Char) : Position :=
  ⟨1 + before.count '\n', 1 + (before.reverse.takeWhile (· != '\n')).length⟩

theorem behind_concat (before : List Char) (c : Char) :
    behind (before ++ [c]) = (behind before).advance c := by
  by_cases hc : c = '\n'
  · simp [behind, advance, hc, Nat.add_assoc]
  · simp [behind, advance, hc, Nat.add_assoc]

theorem start_after (cs : List Char) : start.after cs = behind cs := by
  induction cs using List.reverseRecOn with
  | nil => rfl
  | append_singleton cs c ih => rw [after_append, ih, behind_concat]; rfl

theorem behind_append (before cs : List Char) :
    behind (before ++ cs) = (behind before).after cs := by
  rw [← start_after, after_append, start_after]

/-- The order in which positions come in a text. -/
def Precedes (p q : Position) : Prop := p.line < q.line ∨ p.line = q.line ∧ p.column < q.column

theorem Precedes.trans {p q r : Position} (hpq : p.Precedes q) (hqr : q.Precedes r) :
    p.Precedes r := by
  unfold Precedes at *
  omega

theorem precedes_advance (p : Position) (c : Char) : p.Precedes (p.advance c) := by
  unfold Precedes advance
  split <;> simp

theorem Precedes.after {p q : Position} (h : p.Precedes q) (cs : List Char) :
    p.Precedes (q.after cs) := by
  induction cs generalizing q with
  | nil => exact h
  | cons c cs ih => exact ih (h.trans (precedes_advance q c))

theorem precedes_after (p : Position) {cs : List Char} (hcs : cs ≠ []) :
    p.Precedes (p.after cs) := by
  cases cs with
  | nil => exact absurd rfl hcs
  | cons c cs => exact (precedes_advance p c).after cs

end Position

namespace Lexer

open Position (behind behind_append)

/-! ### Lexemes with what is in front of them -/

/-- A lexeme, and the characters of the text in front of it. -/
structure Placed where
  before : List Char
  lexeme : Lexeme
  deriving Repr

def Placed.token (p : Placed) : Token := ⟨p.lexeme.kind, behind p.before⟩

/-- The blanks and comments that a text begins with. -/
def trivia (cs : List Char) : List Char := (spanTrivia false cs).1

/-- The lexemes `ps` are the first ones of the text; they end behind `stop`, and `left` follows. -/
inductive Laid (text : List Char) : List Placed → List Char → List Char → Prop
  | start : Laid text [] [] text
  | step {ps : List Placed} {stop left cs : List Char} {c : Char} {l : Lexeme}
      (laid : Laid text ps stop left) (hskip : (spanTrivia false left).2 = c :: cs)
      (hlexeme : lexeme c cs = .ok l) :
      Laid text (ps ++ [⟨stop ++ trivia left, l⟩]) (stop ++ trivia left ++ l.taken) l.rest

variable {text stop left : List Char} {ps : List Placed}

theorem trivia_append {cs rest : List Char} (h : (spanTrivia false cs).2 = rest) :
    trivia cs ++ rest = cs := by
  rw [trivia, ← h, spanTrivia_append]

theorem trivia_eq_self {cs : List Char} (h : (spanTrivia false cs).2 = []) : trivia cs = cs := by
  rw [← List.append_nil (trivia cs), trivia_append h]

theorem Laid.text_eq (h : Laid text ps stop left) : text = stop ++ left := by
  induction h with
  | start => rfl
  | step laid hskip hlexeme ih =>
    rw [ih, List.append_assoc, List.append_assoc, lexeme_append hlexeme, trivia_append hskip]

/-- A placed lexeme is found in the text at its place. -/
theorem Laid.placed (h : Laid text ps stop left) {p : Placed} (hp : p ∈ ps) :
    text = p.before ++ p.lexeme.taken ++ p.lexeme.rest ∧
      ∃ c cs, lexeme c cs = .ok p.lexeme := by
  induction h with
  | start => cases hp
  | step laid hskip hlexeme ih =>
    obtain hp | hp := List.mem_append.mp hp
    · exact ih hp
    · obtain rfl := List.mem_singleton.mp hp
      exact ⟨(laid.step hskip hlexeme).text_eq, _, _, hlexeme⟩

/-- Positions grow from lexeme to lexeme, and beyond them all. -/
theorem Laid.pairwise (h : Laid text ps stop left) :
    ps.Pairwise (fun p q => p.token.pos.Precedes q.token.pos) ∧
      ∀ p ∈ ps, p.token.pos.Precedes (behind stop) := by
  induction h with
  | start => simp
  | @step ps stop left cs c l laid hskip hlexeme ih =>
    obtain ⟨hpairs, hall⟩ := ih
    have hgap : ∀ p ∈ ps, p.token.pos.Precedes (behind (stop ++ trivia left)) := fun p hp => by
      rw [behind_append]
      exact (hall p hp).after (trivia left)
    have htaken : (behind (stop ++ trivia left)).Precedes
        (behind (stop ++ trivia left ++ l.taken)) := by
      rw [behind_append (stop ++ trivia left)]
      exact Position.precedes_after _ (lexeme_taken_ne_nil hlexeme)
    refine ⟨List.pairwise_append.mpr ⟨hpairs, List.pairwise_singleton _ _, ?_⟩, ?_⟩
    · rintro p hp q hq
      obtain rfl := List.mem_singleton.mp hq
      exact hgap p hp
    · intro p hp
      obtain hp | hp := List.mem_append.mp hp
      · exact (hgap p hp).trans htaken
      · obtain rfl := List.mem_singleton.mp hp
        exact htaken

/-- Behind the lexemes that are laid, the tokens that are read belong to further ones. -/
theorem Laid.exists_of_ok (h : Laid text ps stop left) {tokens : List Token}
    (htokens : tokensFrom (behind stop) left = .ok tokens) :
    ∃ qs stop' left', Laid text (ps ++ qs) stop' left' ∧ (spanTrivia false left').2 = [] ∧
      tokens = qs.map Placed.token ++ [⟨.endOfFile, behind text⟩] := by
  generalize hpos : behind stop = pos at htokens
  fun_induction tokensFrom pos left generalizing ps stop tokens with
  | case1 pos left here =>
    rename_i hskip
    subst hpos
    cases htokens
    have htext : text = stop ++ trivia left := by rw [h.text_eq, trivia_eq_self hskip]
    refine ⟨[], stop, left, by rwa [List.append_nil], hskip, ?_⟩
    rw [htext, behind_append]
    rfl
  | case2 => cases htokens
  | case3 => cases htokens
  | case4 pos left here c cs =>
    rename_i hskip l hlexeme ts hts ih
    subst hpos
    cases htokens
    have hhere : behind (stop ++ trivia left) = here := behind_append stop (trivia left)
    have hstop : behind (stop ++ trivia left ++ l.taken) = here.after l.taken := by
      rw [behind_append, hhere]
    obtain ⟨qs, stop', left', hlaid, hend, rfl⟩ := ih (h.step hskip hlexeme) hstop hts
    refine ⟨⟨stop ++ trivia left, l⟩ :: qs, stop', left', by simpa using hlaid, hend, ?_⟩
    rw [List.map_cons, List.cons_append, Placed.token, hhere]

/-- Behind the lexemes that are laid, an error is about the text behind further ones. -/
theorem Laid.exists_of_error (h : Laid text ps stop left) {e : SyntaxError}
    (he : tokensFrom (behind stop) left = .error e) :
    ∃ qs stop' left' c cs fault, Laid text (ps ++ qs) stop' left' ∧
      (spanTrivia false left').2 = c :: cs ∧ lexeme c cs = .error fault ∧
      e = ⟨behind (stop' ++ trivia left'), fault, []⟩ := by
  generalize hpos : behind stop = pos at he
  fun_induction tokensFrom pos left generalizing ps stop with
  | case1 => cases he
  | case2 pos left here c cs =>
    rename_i hskip fault hlexeme
    subst hpos
    cases he
    have hhere : behind (stop ++ trivia left) = here := behind_append stop (trivia left)
    exact ⟨[], stop, left, c, cs, fault, by rwa [List.append_nil], hskip, hlexeme, by rw [hhere]⟩
  | case3 pos left here c cs =>
    rename_i hskip l hlexeme e' hrest ih
    subst hpos
    cases he
    have hhere : behind (stop ++ trivia left) = here := behind_append stop (trivia left)
    have hstop : behind (stop ++ trivia left ++ l.taken) = here.after l.taken := by
      rw [behind_append, hhere]
    obtain ⟨qs, stop', left', c', cs', fault, hlaid, herror⟩ :=
      ih (h.step hskip hlexeme) hstop hrest
    exact ⟨⟨stop ++ trivia left, l⟩ :: qs, stop', left', c', cs', fault,
      by simpa using hlaid, herror⟩
  | case4 => cases he

/-! ### Faults in the spelling -/

theorem ofNat_ne_zero {k : Nat} (hpos : 0 < k) (hk : k < 2 ^ 32) : Int32.ofNat k ≠ 0 := by
  intro hzero
  have hmod : (Int32.ofNat k).toUInt32.toNat = k % 2 ^ 32 := by simp
  rw [hzero, Nat.mod_eq_of_lt hk] at hmod
  exact hpos.ne hmod

/-- A text in which no quote ends a string: every quote has a backslash in front that belongs to
it. -/
inductive Unclosed : List Char → Prop
  | nil : Unclosed []
  | slash : Unclosed ['\\']
  | escaped {c : Char} {cs : List Char} (rest : Unclosed cs) : Unclosed ('\\' :: c :: cs)
  | plain {c : Char} {cs : List Char} (hquote : c ≠ '"') (hslash : c ≠ '\\') (rest : Unclosed cs) :
      Unclosed (c :: cs)

/-- What is wrong with the spelling of a text that begins with a character that is no blank. -/
inductive Offence : Char → List Char → SyntaxFault → Prop
  /-- A string that is opened here and not closed. -/
  | quote {cs : List Char} (hopen : Unclosed cs) : Offence '"' cs .unterminatedString
  /-- What begins like a number and is none, or is too long for its digits to be counted. -/
  | number {c : Char} {more behind : List Char}
      (hstart : c = '-' ∨ c = '+' ∨ c = '.' ∨ Decimal.isDigit c)
      (hnone : (c :: more).length < 2 ^ 32 → ¬IsNumeral (c :: more)) :
      Offence c (more ++ behind) (.invalidNumber (String.ofList (c :: more)))
  /-- A character that no token is written with in front. -/
  | character {c : Char} {cs : List Char} (hnone : ∀ more kind, ¬Spells (c :: more) kind) :
      Offence c cs (.unexpectedCharacter c)

theorem unclosed_of_scanString {cs : List Char} (h : scanString cs = none) : Unclosed cs := by
  fun_induction scanString cs with
  | case1 => exact .nil
  | case2 cs => cases h
  | case3 => exact .slash
  | case4 c cs ih => exact .escaped (ih (Option.map_eq_none_iff.mp h))
  | case5 c cs hquote hend hslash ih =>
    refine .plain hquote ?_ (ih (Option.map_eq_none_iff.mp h))
    rintro rfl
    cases cs with
    | nil => exact hend rfl rfl
    | cons c cs => exact hslash c cs rfl rfl

theorem spanNumeral_cons {c : Char} (hstart : c = '-' ∨ c = '+' ∨ c = '.' ∨ Decimal.isDigit c)
    (cs : List Char) : ∃ more, (spanNumeral c cs).1 = c :: more := by
  unfold spanNumeral
  split
  · exact ⟨_, rfl⟩
  · rename_i hsign
    obtain rfl | rfl | rfl | hdigit := hstart
    · exact absurd rfl hsign
    · exact absurd rfl hsign
    · exact ⟨_, by rw [spanNumber_point]⟩
    · exact ⟨_, by rw [spanNumber_digit 0 (by rwa [← isDigit_eq])]⟩

theorem number_offence {c : Char} {cs : List Char} {fault : SyntaxFault}
    (hstart : c = '-' ∨ c = '+' ∨ c = '.' ∨ Decimal.isDigit c) (h : number c cs = .error fault) :
    Offence c cs fault := by
  obtain ⟨more, hmore⟩ := spanNumeral_cons hstart cs
  have hcs : cs = more ++ (spanNumeral c cs).2.1 := by
    have happend := spanNumeral_append c cs
    rw [hmore] at happend
    exact (List.cons.inj happend).2.symm
  have hcount := spanNumeral_count c cs
  unfold number at h
  simp only [hmore] at h hcount
  rw [hcs]
  split at h
  · rename_i hdigits
    cases h
    refine .number hstart fun hlength hnumeral => ?_
    have hle : (c :: more).countP Decimal.isDigit ≤ (c :: more).length := List.countP_le_length
    exact ofNat_ne_zero hnumeral.countP_pos (hle.trans_lt hlength) (hcount.symm.trans hdigits)
  · split at h
    · cases h
    · rename_i hread
      cases h
      refine .number hstart fun _ hnumeral => ?_
      obtain ⟨x, hx⟩ := exists_read_numeral hnumeral
      rw [hread] at hx
      cases hx

/-- A fault in the spelling is one of the text at whose front it was found. -/
theorem lexeme_offence {c : Char} {cs : List Char} {fault : SyntaxFault}
    (h : lexeme c cs = .error fault) : Offence c cs fault := by
  unfold lexeme at h
  split at h
  · rename_i hquote
    split at h
    · cases h
    · rename_i hopen
      cases h
      exact hquote ▸ .quote (unclosed_of_scanString hopen)
  · rename_i hquote
    split at h
    · cases h
    · split at h
      · rename_i hstart
        exact number_offence (by simpa [or_assoc] using hstart) h
      · rename_i hstart
        split at h
        · cases h
        · rename_i hword
          split at h
          · cases h
          · rename_i hmark
            cases h
            have hequals : c ≠ '=' := by
              rintro rfl
              cases hmark
            refine .character fun more kind hspells => ?_
            have hend : Parted [] := by simp [Parted]
            have hcount : ∀ x, kind = .number x →
                (c :: more).countP Decimal.isDigit < 2 ^ 31 := by
              rintro x rfl
              cases hspells with
              | number numeral =>
                obtain ⟨c', cs', hcs, hc⟩ := numeral.exists_cons
                obtain ⟨rfl, -⟩ := List.cons.inj hcs
                exact absurd hc (by simpa [or_assoc] using hstart)
            obtain ⟨c', cs', hcs, -, hl⟩ := hspells.lexeme_eq hcount hend
            obtain ⟨rfl, rfl⟩ := List.cons.inj hcs
            simp [lexeme, hquote, hequals, hstart, hword, hmark] at hl

/-! ### Counting bytes -/

/-- A line and a column of 32 bits each. -/
structure Counters where
  line : UInt32
  column : UInt32
  deriving DecidableEq, Repr

/-- A byte read: a line feed begins a line, and a byte that continues a character is not counted. -/
def Counters.bump (k : Counters) (b : UInt8) : Counters :=
  if b = 10 then ⟨k.line + 1, 1⟩
  else if b &&& 0xC0 = 0x80 then k
  else ⟨k.line, k.column + 1⟩

def Counters.ofPosition (p : Position) : Counters := ⟨.ofNat p.line, .ofNat p.column⟩

theorem continues_iff (b : UInt8) : b &&& 0xC0 = 0x80 ↔ 128 ≤ b.toNat ∧ b.toNat < 192 := by
  have hall : ∀ n < 256, (UInt8.ofNat n &&& 0xC0 = 0x80 ↔ 128 ≤ n ∧ n < 192) := by
    decide +kernel
  have hb := hall b.toNat b.toNat_lt
  rwa [UInt8.ofNat_toNat] at hb

/-- The bytes of a character but the first one continue it. -/
theorem exists_first_byte (c : Char) : ∃ b bs, String.utf8EncodeChar c = b :: bs ∧
    (b = 10 ↔ c = '\n') ∧ b &&& 0xC0 ≠ 0x80 ∧ ∀ x ∈ bs, x &&& 0xC0 = 0x80 := by
  obtain ⟨b, bs, hc, hhead, -⟩ := exists_utf8EncodeChar c
  refine ⟨b, bs, hc, byte_eq_iff hhead '\n' (by decide), ?_⟩
  have hmod (n : Nat) : (UInt8.ofNat n).toNat = n % 256 := UInt8.toNat_ofNat
  simp only [continues_iff, ne_eq]
  rw [String.utf8EncodeChar] at hc
  split_ifs at hc
  all_goals obtain ⟨rfl, rfl⟩ := List.cons.inj hc
  · exact ⟨by rw [hmod]; omega, by simp⟩
  · exact ⟨by rw [hmod]; omega, by simp [hmod]; omega⟩
  · exact ⟨by rw [hmod]; omega, by simp [hmod]; omega⟩
  · exact ⟨by rw [hmod]; omega, by simp [hmod]; omega⟩

theorem bump_continued (k : Counters) {bs : List UInt8} (hbs : ∀ b ∈ bs, b &&& 0xC0 = 0x80) :
    bs.foldl Counters.bump k = k := by
  induction bs with
  | nil => rfl
  | cons b bs ih =>
    obtain ⟨hb, hbs⟩ := List.forall_mem_cons.mp hbs
    have hfeed : b ≠ 10 := by
      rintro rfl
      exact absurd hb (by decide)
    rw [List.foldl_cons, Counters.bump, if_neg hfeed, if_pos hb, ih hbs]

theorem bump_char (p : Position) (c : Char) :
    (String.utf8EncodeChar c).foldl Counters.bump (.ofPosition p) = .ofPosition (p.advance c) := by
  obtain ⟨b, bs, hc, hfeed, hfirst, hbs⟩ := exists_first_byte c
  rw [hc, List.foldl_cons, bump_continued _ hbs]
  by_cases hb : b = 10
  · simp [Counters.bump, Counters.ofPosition, Position.advance, hb, hfeed.mp hb]
  · simp [Counters.bump, Counters.ofPosition, Position.advance, hb, hfirst, hfeed.not.mp hb]

theorem bump_utf8 (p : Position) (cs : List Char) :
    (utf8 cs).foldl Counters.bump (.ofPosition p) = .ofPosition (p.after cs) := by
  induction cs generalizing p with
  | nil => rfl
  | cons c cs ih =>
    rw [utf8, List.flatMap_cons, List.foldl_append, bump_char]
    exact ih (p.advance c)

theorem Counters.ofPosition_behind {before : List Char} (h : before.length < 2 ^ 32 - 1) :
    (ofPosition (behind before)).line.toNat = (behind before).line ∧
      (ofPosition (behind before)).column.toNat = (behind before).column := by
  have hline : before.count '\n' ≤ before.length := List.count_le_length
  have hcolumn : (before.reverse.takeWhile (· != '\n')).length ≤ before.length :=
    (List.takeWhile_sublist _).length_le.trans_eq List.length_reverse
  have hmod (n : Nat) : (UInt32.ofNat n).toNat = n % 2 ^ 32 := UInt32.toNat_ofNat
  simp only [ofPosition, behind, hmod]
  exact ⟨Nat.mod_eq_of_lt (by omega), Nat.mod_eq_of_lt (by omega)⟩

end Lexer

open Lexer Position

/-- A token stands where its first character does and the end of the file behind all the text, in
the order of the text. An error stands where the lexeme begins that has no right spelling. The
same places are found with counters of 32 bits, byte by byte, behind fewer characters than these can
count: in a text of fewer than 2³² - 1 characters, all places up to its end. -/
theorem tokenize_positions (source : String) :
    (∀ tokens, tokenize source = .ok tokens → ∃ ps stop left,
      Laid source.toList ps stop left ∧ (spanTrivia false left).2 = [] ∧
      tokens = ps.map Placed.token ++ [⟨.endOfFile, behind source.toList⟩] ∧
      (∀ p ∈ ps, p.lexeme.kind ≠ .endOfFile ∧ p.lexeme.taken ≠ [] ∧
        source.toList = p.before ++ p.lexeme.taken ++ p.lexeme.rest) ∧
      tokens.Pairwise fun t u => t.pos.Precedes u.pos) ∧
    (∀ e, tokenize source = .error e → ∃ ps stop left c cs,
      Laid source.toList ps stop left ∧ (spanTrivia false left).2 = c :: cs ∧
      source.toList = stop ++ trivia left ++ c :: cs ∧ e.pos = behind (stop ++ trivia left) ∧
      Offence c cs e.fault ∧ ∀ d, e.fault = .unexpectedCharacter d →
        d = c ∧ e.fault.message = s!"unexpected character `{c}`") ∧
    ∀ before rest, source.toList = before ++ rest → before.length < 2 ^ 32 - 1 →
      let counters := (utf8 before).foldl Counters.bump ⟨1, 1⟩
      counters.line.toNat = (behind before).line ∧
        counters.column.toNat = (behind before).column := by
  refine ⟨fun tokens htokens => ?_, fun e he => ?_, fun before rest _ hbefore => ?_⟩
  · obtain ⟨ps, stop, left, hlaid, hend, rfl⟩ := Laid.start.exists_of_ok htokens
    refine ⟨ps, stop, left, hlaid, hend, rfl, fun p hp => ?_, ?_⟩
    · obtain ⟨htext, c, cs, hlexeme⟩ := hlaid.placed hp
      exact ⟨lexeme_kind_ne_endOfFile hlexeme, lexeme_taken_ne_nil hlexeme, htext⟩
    · obtain ⟨hpairs, hall⟩ := hlaid.pairwise
      have htext : source.toList = stop ++ trivia left := by
        rw [hlaid.text_eq, trivia_eq_self hend]
      refine List.pairwise_append.mpr
        ⟨List.pairwise_map.mpr hpairs, List.pairwise_singleton _ _, ?_⟩
      intro t ht u hu
      obtain ⟨p, hp, rfl⟩ := List.mem_map.mp ht
      obtain rfl := List.mem_singleton.mp hu
      rw [htext, behind_append]
      exact (hall p hp).after (trivia left)
  · obtain ⟨ps, stop, left, c, cs, fault, hlaid, hskip, hlexeme, rfl⟩ :=
      Laid.start.exists_of_error he
    have hoffence := lexeme_offence hlexeme
    refine ⟨ps, stop, left, c, cs, hlaid, hskip, ?_, rfl, hoffence, ?_⟩
    · rw [List.append_assoc, trivia_append hskip, hlaid.text_eq]
    · rintro d rfl
      cases hoffence
      exact ⟨rfl, rfl⟩
  · have hstart : (utf8 before).foldl Counters.bump ⟨1, 1⟩ = .ofPosition (behind before) :=
      (bump_utf8 Position.start before).trans (by rw [start_after])
    rw [hstart]
    exact Counters.ofPosition_behind hbefore

/-- A character of three bytes behind a string with one of two bytes, on the next line. -/
theorem tokenize_positions_snowman : ∃ e before c cs, tokenize "\"é\"\n  ☃" = .error e ∧
    "\"é\"\n  ☃".toList = before ++ c :: cs ∧ e.pos = behind before ∧ e.pos = ⟨2, 3⟩ ∧
    e.fault.message = "unexpected character `☃`" ∧ Offence c cs e.fault := by
  have he : tokenize "\"é\"\n  ☃" = .error ⟨⟨2, 3⟩, .unexpectedCharacter '☃', []⟩ := by cbv
  obtain ⟨ps, stop, left, c, cs, -, -, htext, hpos, hoffence, -⟩ :=
    (tokenize_positions "\"é\"\n  ☃").2.1 _ he
  exact ⟨_, stop ++ trivia left, c, cs, he, htext, hpos, rfl, rfl, hoffence⟩

theorem behind_replicate (n : Nat) : behind (List.replicate n ' ') = ⟨1, 1 + n⟩ := by
  have hline : (List.replicate n ' ').count '\n' = 0 := by simp [List.count_replicate]
  rw [behind, hline, List.reverse_replicate, List.takeWhile_replicate]
  simp

theorem tokenize_replicate (n : Nat) : tokenize (String.ofList (List.replicate n ' ')) =
    .ok [⟨.endOfFile, behind (List.replicate n ' ')⟩] := by
  have hgap : Gap (List.replicate n ' ') := by
    induction n with
    | zero => exact .nil
    | succ n ih => exact .blank (by simp) ih
  have hskip : spanTrivia false (List.replicate n ' ' ++ []) = (List.replicate n ' ', []) :=
    spanTrivia_gap hgap (by simp)
  rw [List.append_nil] at hskip
  rw [tokenize, String.toList_ofList, tokensFrom_done (congrArg Prod.snd hskip), hskip, start_after]

/-- Behind a line of 2³² - 1 blanks the column is one that the counter cannot hold. -/
theorem tokenize_positions_wrapped :
    let blanks := List.replicate (2 ^ 32 - 1) ' '
    blanks.length < 2 ^ 32 ∧
      tokenize (String.ofList blanks) = .ok [⟨.endOfFile, behind blanks⟩] ∧
      behind blanks = ⟨1, 2 ^ 32⟩ ∧ (utf8 blanks).foldl Counters.bump ⟨1, 1⟩ = ⟨1, 0⟩ := by
  intro blanks
  have hbehind : behind blanks = ⟨1, 2 ^ 32⟩ := behind_replicate (2 ^ 32 - 1)
  have hcounters : (utf8 blanks).foldl Counters.bump ⟨1, 1⟩ = .ofPosition (behind blanks) :=
    (bump_utf8 Position.start blanks).trans (by rw [start_after])
  refine ⟨?_, tokenize_replicate _, hbehind, ?_⟩
  · rw [List.length_replicate]
    decide
  · rw [hcounters, hbehind]
    decide

end RuleGraph
