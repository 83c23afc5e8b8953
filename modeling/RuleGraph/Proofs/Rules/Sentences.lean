import Mathlib
import RuleGraph.Proofs.Rules.Reading

/-!
# Exactly the sentences of the grammar are read

The tokens of a text are those of its lexemes, and one end of the file behind them all. They make
up rules just when the grammar derives them. An arrow is written with two signs or as a word.
-/
namespace RuleGraph

namespace Lexer

/-- The lexemes of a text, in order; blanks and comments stand between them. -/
inductive Lexemes : List Char → List Lexeme → Prop
  | done {cs : List Char} (hskip : (spanTrivia false cs).2 = []) : Lexemes cs []
  | step {cs rest : List Char} {c : Char} {l : Lexeme} {ls : List Lexeme}
      (hskip : (spanTrivia false cs).2 = c :: rest) (hlexeme : lexeme c rest = .ok l)
      (hrest : Lexemes l.rest ls) : Lexemes cs (l :: ls)

/-- What a lexeme is depends on its first character, save for an arrow and an equals sign. -/
theorem lexeme_cases {c : Char} {cs : List Char} {l : Lexeme} (h : lexeme c cs = .ok l) :
    (c = '"' ∧ ∃ s, l.kind = .text s) ∨ (l.taken = ['=', '>'] ∧ l.kind = .arrow) ∨
      ((c = '-' ∨ c = '+' ∨ c = '.' ∨ Decimal.isDigit c) ∧ ∃ x, l.kind = .number x) ∨
      (isWordStart c ∧ l.kind = wordKind l.taken) ∨ (l.taken = [c] ∧ mark? c = some l.kind) := by
  unfold lexeme at h
  split at h
  · rename_i hquote
    split at h
    · cases h
      exact .inl ⟨hquote, _, rfl⟩
    · cases h
  · split at h
    · cases h
      exact .inr (.inl ⟨rfl, rfl⟩)
    · split at h
      · rename_i hnumber
        refine .inr (.inr (.inl ⟨by simpa [or_assoc] using hnumber, ?_⟩))
        unfold number at h
        simp only at h
        split at h
        · cases h
        · split at h
          · cases h
            exact ⟨_, rfl⟩
          · cases h
      · split at h
        · rename_i hword
          cases h
          exact .inr (.inr (.inr (.inl ⟨hword, rfl⟩)))
        · split at h
          · rename_i hmark
            cases h
            exact .inr (.inr (.inr (.inr ⟨rfl, hmark⟩)))
          · cases h

theorem mark?_ne {c : Char} {kind : Token.Kind} (h : mark? c = some kind) :
    kind ≠ .endOfFile ∧ kind ≠ .arrow := by
  unfold mark? at h
  split at h <;> cases h <;> simp

theorem wordKind_eq_arrow_iff {word : List Char} :
    wordKind word = .arrow ↔ Decimal.lower word = ['i', 's'] := by
  unfold wordKind
  split
  · simpa
  · split <;> simpa

theorem lexeme_kind_ne_endOfFile {c : Char} {cs : List Char} {l : Lexeme}
    (h : lexeme c cs = .ok l) : l.kind ≠ .endOfFile := by
  obtain ⟨-, s, hkind⟩ | ⟨-, hkind⟩ | ⟨-, x, hkind⟩ | ⟨-, hkind⟩ | ⟨-, hmark⟩ := lexeme_cases h
  · simp [hkind]
  · simp [hkind]
  · simp [hkind]
  · rw [hkind]
    unfold wordKind
    split
    · simp
    · split <;> simp
  · exact (mark?_ne hmark).1

theorem toLower_digit {c : Char} (h : Decimal.isDigit c) : c.toLower = c := by
  have hnine : c ≤ '9' := by
    simp only [Decimal.isDigit, Bool.and_eq_true, decide_eq_true_eq] at h
    exact h.2
  exact dif_neg fun hupper => absurd (UInt32.le_trans hupper.1 hnine) (by decide)

/-- An arrow is written with two signs or as a word, in small letters or capitals. -/
theorem lexeme_kind_eq_arrow_iff {c : Char} {cs : List Char} {l : Lexeme}
    (h : lexeme c cs = .ok l) :
    l.kind = .arrow ↔ l.taken = ['=', '>'] ∨ Decimal.lower l.taken = ['i', 's'] := by
  obtain ⟨ds, htaken⟩ : ∃ ds, l.taken = c :: ds := by
    obtain ⟨d, ds, htaken⟩ := List.exists_cons_of_ne_nil (lexeme_taken_ne_nil h)
    have happend := lexeme_append h
    rw [htaken, List.cons_append, List.cons.injEq] at happend
    exact ⟨ds, by rw [htaken, happend.1]⟩
  have hother (hsign : c ≠ '=') (hletter : c.toLower ≠ 'i') :
      ¬(l.taken = ['=', '>'] ∨ Decimal.lower l.taken = ['i', 's']) := by
    simp [htaken, Decimal.lower, hsign, hletter]
  obtain ⟨rfl, s, hkind⟩ | ⟨htwo, hkind⟩ | ⟨hfirst, x, hkind⟩ | ⟨hword, hkind⟩ | ⟨hone, hmark⟩ :=
    lexeme_cases h
  · have := hother (by decide) (by decide)
    simpa [hkind]
  · simp [hkind, htwo]
  · have hdigit : c ≠ '=' ∧ c.toLower ≠ 'i' := by
      obtain rfl | rfl | rfl | hdigit := hfirst
      · decide
      · decide
      · decide
      · have hne (d : Char) (hd : ¬Decimal.isDigit d) : c ≠ d := fun heq => hd (heq ▸ hdigit)
        rw [toLower_digit hdigit]
        exact ⟨hne '=' (by decide), hne 'i' (by decide)⟩
    have := hother hdigit.1 hdigit.2
    simpa [hkind]
  · have hsign : l.taken ≠ ['=', '>'] := by
      rintro heq
      rw [htaken, List.cons.injEq] at heq
      rw [heq.1] at hword
      exact absurd hword (by decide)
    simp [hkind, wordKind_eq_arrow_iff, hsign]
  · simp [hone, Decimal.lower, (mark?_ne hmark).2]

/-- One token for each lexeme, and the end of the file. -/
theorem tokensFrom_lexemes {pos : Position} {cs : List Char} {tokens : List Token}
    (h : tokensFrom pos cs = .ok tokens) : ∃ ls, Lexemes cs ls ∧
      tokens.map Token.kind = ls.map Lexeme.kind ++ [.endOfFile] := by
  fun_induction tokensFrom pos cs generalizing tokens with
  | case1 =>
    rename_i hskip
    cases h
    exact ⟨[], .done hskip, rfl⟩
  | case2 => cases h
  | case3 => cases h
  | case4 =>
    rename_i hskip l hlexeme ts hts ih
    cases h
    obtain ⟨ls, hls, hkinds⟩ := ih hts
    exact ⟨l :: ls, .step hskip hlexeme hls, by simp [hkinds]⟩

theorem Lexemes.exists_lexeme {cs : List Char} {ls : List Lexeme} (h : Lexemes cs ls)
    {l : Lexeme} (hl : l ∈ ls) : ∃ c cs', lexeme c cs' = .ok l := by
  induction h with
  | done => cases hl
  | step hskip hlexeme hrest ih =>
    obtain rfl | hl := List.mem_cons.mp hl
    · exact ⟨_, _, hlexeme⟩
    · exact ih hl

theorem Lexemes.kind_ne_endOfFile {cs : List Char} {ls : List Lexeme} (h : Lexemes cs ls)
    {l : Lexeme} (hl : l ∈ ls) : l.kind ≠ .endOfFile := by
  obtain ⟨c, cs', hlexeme⟩ := h.exists_lexeme hl
  exact lexeme_kind_ne_endOfFile hlexeme

theorem Lexemes.kind_eq_arrow_iff {cs : List Char} {ls : List Lexeme} (h : Lexemes cs ls)
    {l : Lexeme} (hl : l ∈ ls) :
    l.kind = .arrow ↔ l.taken = ['=', '>'] ∨ Decimal.lower l.taken = ['i', 's'] := by
  obtain ⟨c, cs', hlexeme⟩ := h.exists_lexeme hl
  exact lexeme_kind_eq_arrow_iff hlexeme

/-- The end of the file is the last token and no other. -/
theorem Lexemes.endOfFile_last {cs : List Char} {ls : List Lexeme} (h : Lexemes cs ls)
    {tokens : List Token} (htokens : tokens.map Token.kind = ls.map Lexeme.kind ++ [.endOfFile]) :
    ∃ ts pos, tokens = ts ++ [⟨.endOfFile, pos⟩] ∧ ∀ t ∈ ts, t.kind ≠ .endOfFile := by
  obtain ⟨ts, last, rfl, hkinds, hlast⟩ := List.map_eq_append_iff.mp htokens
  obtain ⟨⟨kind, pos⟩, rfl, rfl⟩ := List.map_eq_singleton_iff.mp hlast
  refine ⟨ts, pos, rfl, fun t ht => ?_⟩
  obtain ⟨l, hl, hkind⟩ := List.mem_map.mp (hkinds ▸ List.mem_map_of_mem ht)
  rw [← hkind]
  exact h.kind_ne_endOfFile hl

end Lexer

namespace Parser

/-- In front of the only end of file there is, all that is read of a file is all there is. -/
theorem rest_eq_nil {ts rest : List Token} {pos : Position} {d : Grammar.File}
    (hts : ∀ t ∈ ts, t.kind ≠ .endOfFile) (h : ts ++ [⟨.endOfFile, pos⟩] = d.tokens ++ rest) :
    rest = [] := by
  rw [Grammar.File.tokens, List.append_assoc, List.singleton_append] at h
  by_contra hrest
  have hinit : ts = d.rules.flatMap Grammar.Rule.tokens ++
      ⟨.endOfFile, d.endOfFile⟩ :: rest.dropLast := by
    have hdrop := congrArg List.dropLast h
    rwa [List.dropLast_concat, List.dropLast_append_of_ne_nil (List.cons_ne_nil _ _),
      List.dropLast_cons_of_ne_nil hrest] at hdrop
  exact hts ⟨.endOfFile, d.endOfFile⟩ (by simp [hinit]) rfl

/-- A text has one derivation at most, and the rules that are read are those it stands for. An
arrow of the grammar is written either way. -/
theorem reads_exactly_grammar {source : String} {tokens : List Token}
    (h : tokenize source = .ok tokens) (rules : List Rule) :
    (file tokens = .ok rules ↔ ∃ d : Grammar.File, d.tokens = tokens ∧ d.toRules = rules) ∧
      (∀ d d' : Grammar.File, d.tokens = tokens → d'.tokens = tokens → d = d') ∧
      (∃ ts pos, tokens = ts ++ [⟨.endOfFile, pos⟩] ∧ ∀ t ∈ ts, t.kind ≠ .endOfFile) ∧
      ∃ ls, Lexer.Lexemes source.toList ls ∧
        tokens.map Token.kind = ls.map Lexer.Lexeme.kind ++ [.endOfFile] ∧
        ∀ l ∈ ls, l.kind = .arrow ↔ l.taken = ['=', '>'] ∨ Decimal.lower l.taken = ['i', 's'] := by
  obtain ⟨ls, hls, hkinds⟩ := Lexer.tokensFrom_lexemes h
  obtain ⟨ts, pos, rfl, hts⟩ := hls.endOfFile_last hkinds
  refine ⟨⟨fun hfile => ?_, ?_⟩, ?_, ⟨ts, pos, rfl, hts⟩, ls, hls, hkinds,
    fun l hl => hls.kind_eq_arrow_iff hl⟩
  · obtain ⟨d, rest, rfl, htokens⟩ := exists_file hfile
    rw [rest_eq_nil hts htokens, List.append_nil] at htokens
    exact ⟨d, htokens.symm, rfl⟩
  · rintro ⟨d, htokens, rfl⟩
    rw [← htokens]
    exact file_tokens d
  · intro d d' hd hd'
    exact Grammar.File.tokens_injective (hd.trans hd'.symm)

/-- The forms with words, a negated filter with a repeated parameter, and a call. -/
theorem reads_exactly_grammar_worded :
    let source := "a IS from t: f=\"2s\" | !g(x=\"a\", x=\"b\") | @c;"
    let links : List Link := [.filter "g" [⟨"x", .text "a"⟩, ⟨"x", .text "b"⟩] true, .call "c"]
    ∃ tokens, tokenize source = .ok tokens ∧
      file tokens = .ok [⟨"a", ⟨1, 1⟩, .produced ⟨"t", [⟨"f", .text "2s"⟩]⟩ links⟩] := by
  intro source links
  let param (name value : String) (column : Nat) : Grammar.Param :=
    ⟨⟨name, ⟨1, column⟩⟩, ⟨1, column + 1⟩, .text value ⟨1, column + 2⟩⟩
  let node : Grammar.Node :=
    .pipe (.filter (some ⟨1, 23⟩) ⟨"g", ⟨1, 24⟩⟩ ⟨1, 25⟩
      (some ⟨param "x" "a" 26, [(⟨1, 31⟩, param "x" "b" 33)]⟩) ⟨1, 38⟩) ⟨1, 40⟩
      (.last (.call ⟨1, 42⟩ ⟨"c", ⟨1, 43⟩⟩))
  let producer : Grammar.Producer :=
    .worded ⟨1, 6⟩ ⟨"t", ⟨1, 11⟩⟩ (some (⟨1, 12⟩, ⟨param "f" "2s" 14, []⟩)) (some (⟨1, 21⟩, node))
  let d : Grammar.File := ⟨[⟨⟨"a", ⟨1, 1⟩⟩, ⟨1, 3⟩, .producer producer, ⟨1, 44⟩⟩], ⟨1, 45⟩⟩
  have htokens : tokenize source = .ok d.tokens := by cbv
  exact ⟨_, htokens, (reads_exactly_grammar htokens _).1.mpr ⟨d, rfl, rfl⟩⟩

end Parser
end RuleGraph
