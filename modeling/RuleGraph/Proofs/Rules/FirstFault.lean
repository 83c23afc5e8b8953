import Mathlib
import RuleGraph.Proofs.Rules.Sentences
import RuleGraph.Proofs.Rules.ViablePrefix

/-!
# Reading stops at the first wrong token

Reading a part of the grammar follows the states of its prefixes. Where it fails, the tokens that
it took lead to a state from which the next token leads nowhere, and that token is what the error
is about. So no sentence begins with the tokens up to there, while one begins with those in front.
-/
namespace RuleGraph

namespace Parser

open Grammar (next? tokens? behind Viable)
open Grammar.State (run_append_of_eq run_cons run_nil)

variable {ts us rest : List Token} {s s' : Grammar.State} {e : SyntaxError}

/-! ### What an error names -/

/-- What is named in an error where reading fails in a state. -/
def named : Grammar.State → List Expected
  | .rule | .call => [.ruleName]
  | .named => [.mark .arrow]
  | .body => [.mark .less, .mark .fromWord, .filter, .mark .bang, .mark .atSign]
  | .announced _ => [.producerName]
  | .produced true | .given (.producer true) => [.mark .colon, .mark .comma, .mark .greater]
  | .produced false | .given (.producer false) | .linked => [.mark .pipe, .mark .semicolon]
  | .node => [.filterName, .mark .bang, .mark .atSign]
  | .negated => [.filterName]
  | .filter => [.mark .leftParen]
  | .opened | .param _ => [.parameterName]
  | .assigned _ => [.mark .equals]
  | .value _ => [.string, .number]
  | .given .filter => [.mark .comma, .mark .rightParen]
  | .done => []

/-- Read from the state `s`, the tokens `ts` lead to one that leads nowhere, and the error is about
that token, or they come to their end before the file does. -/
def Breaks (s : Grammar.State) (ts : List Token) (e : SyntaxError) : Prop :=
  (∃ before t behind s', ts = before ++ t :: behind ∧ s.run before = some s' ∧
    s'.step t.kind = none ∧ e = ⟨t.pos, .unexpectedToken t.kind, named s'⟩) ∨
  ∃ s', s.run ts = some s' ∧ s' ≠ .done

theorem Breaks.behind (h : Breaks s' ts e) (hrun : s.run us = some s') : Breaks s (us ++ ts) e := by
  obtain ⟨before, t, behind, s'', rfl, hbefore, hstep, he⟩ | ⟨s'', hts, hdone⟩ := h
  · refine .inl ⟨us ++ before, t, behind, s'', by simp, ?_, hstep, he⟩
    rw [run_append_of_eq hrun, hbefore]
  · exact .inr ⟨s'', by rw [run_append_of_eq hrun, hts], hdone⟩

theorem Breaks.behind_token {q : Grammar.State} {t : Token} (h : Breaks q ts e)
    (hstep : s.step t.kind = some q) : Breaks s (t :: ts) e := by
  have hrun : s.run [t] = some q := by rw [run_cons, hstep, Option.bind_some, run_nil]
  exact h.behind hrun

/-- States that agree on the next token agree on what breaks. -/
theorem Breaks.congr (h : Breaks s' ts e) (hdone : s ≠ .done)
    (hstep : ∀ kind, next? ts = some kind →
      s.step kind = s'.step kind ∧ (s'.step kind ≠ none ∨ named s = named s')) :
    Breaks s ts e := by
  cases ts with
  | nil => exact .inr ⟨s, rfl, hdone⟩
  | cons t ts =>
    obtain ⟨hsame, hnamed⟩ := hstep t.kind rfl
    obtain ⟨before, u, behind, s'', hts, hbefore, hnone, he⟩ | ⟨s'', hrun, hend⟩ := h
    · refine .inl ⟨before, u, behind, ?_⟩
      cases before with
      | nil =>
        obtain ⟨rfl, rfl⟩ := List.cons.inj hts
        cases hbefore
        rw [← hnamed.resolve_left (not_not_intro hnone)] at he
        exact ⟨s, rfl, rfl, by rw [hsame, hnone], he⟩
      | cons v before =>
        obtain ⟨rfl, rfl⟩ := List.cons.inj hts
        exact ⟨s'', rfl, by rw [run_cons, hsame, ← run_cons, hbefore], hnone, he⟩
    · exact .inr ⟨s'', by rw [run_cons, hsame, ← run_cons, hrun], hend⟩

theorem exists_cons_of_next? {kind : Token.Kind} (h : next? ts = some kind) :
    ∃ pos rest, ts = ⟨kind, pos⟩ :: rest := by
  cases ts with
  | nil => cases h
  | cons t ts =>
    cases h
    exact ⟨t.pos, ts, rfl⟩

theorem breaks_unexpected {α : Type} (h : (unexpected (named s) ts : Except _ α) = .error e)
    (hdone : s ≠ .done) (hstep : ∀ kind, next? ts = some kind → s.step kind = none) :
    Breaks s ts e := by
  cases ts with
  | nil => exact .inr ⟨s, rfl, hdone⟩
  | cons t ts =>
    cases h
    exact .inl ⟨[], t, ts, s, rfl, rfl, hstep t.kind rfl, rfl⟩

theorem bind_eq_error_iff {α β : Type} {x : Except SyntaxError α} {f : α → Except SyntaxError β} :
    (x >>= f) = .error e ↔ x = .error e ∨ ∃ a, x = .ok a ∧ f a = .error e := by
  cases x with
  | error e' =>
    refine ⟨fun h => .inl (congrArg Except.error (Except.error.inj h)), fun h => ?_⟩
    obtain h | ⟨a, ha, -⟩ := h
    · exact congrArg Except.error (Except.error.inj h)
    · cases ha
  | ok a =>
    refine ⟨fun h => .inr ⟨a, rfl, h⟩, fun h => ?_⟩
    obtain h | ⟨a', ha, h⟩ := h
    · cases h
    · cases ha
      exact h

/-! ### Single tokens -/

theorem breaks_name {label : Expected} (h : name label ts = .error e) (hnamed : named s = [label])
    (hdone : s ≠ .done)
    (hstep : ∀ kind, next? ts = some kind → (∀ n, kind ≠ .name n) → s.step kind = none) :
    Breaks s ts e := by
  unfold name at h
  split at h
  · cases h
  · rename_i hname
    rw [← hnamed] at h
    refine breaks_unexpected h hdone fun kind hkind => hstep kind hkind ?_
    rintro n rfl
    obtain ⟨pos, rest, rfl⟩ := exists_cons_of_next? hkind
    exact hname n pos rest rfl

theorem breaks_mark {kind : Token.Kind} (h : mark kind (named s) ts = .error e)
    (hdone : s ≠ .done)
    (hstep : ∀ kind', next? ts = some kind' → kind' ≠ kind → s.step kind' = none) :
    Breaks s ts e := by
  unfold mark at h
  split at h
  · exact .inr ⟨s, rfl, hdone⟩
  · split at h
    · cases h
    · rename_i hkind
      exact breaks_unexpected h hdone fun kind' hkind' =>
        hstep kind' hkind' fun heq => hkind (Option.some.inj (hkind'.trans (congrArg some heq)))

/-- A mark is missing that is all that may stand there. -/
theorem breaks_only_mark {kind : Token.Kind} (h : mark kind (named s) ts = .error e)
    (hnext : s.next = [(.mark kind, s')]) : Breaks s ts e := by
  refine breaks_mark h (by rintro rfl; cases hnext) fun kind' _ hne => ?_
  simp [Grammar.State.step, Grammar.State.lead, hnext, Expected.admits, hne]

theorem breaks_value {r : Grammar.Receiver} (h : value ts = .error e) : Breaks (.value r) ts e := by
  unfold value at h
  split at h
  · cases h
  · cases h
  · rename_i htext hnumber
    refine breaks_unexpected (s := .value r) h (by simp) fun kind hkind => ?_
    obtain ⟨pos, ts, rfl⟩ := exists_cons_of_next? hkind
    cases kind with
    | text v => exact absurd rfl (htext v pos ts)
    | number x => exact absurd rfl (hnumber x pos ts)
    | _ => rfl

/-! ### Parameters -/

theorem breaks_param {r : Grammar.Receiver} (h : param ts = .error e) : Breaks (.param r) ts e := by
  obtain hname | ⟨⟨⟨n, pos⟩, ts₁⟩, hname, hrest⟩ := bind_eq_error_iff.mp h
  · refine breaks_name hname rfl (by simp) fun kind _ hkind => ?_
    cases kind with
    | name n => exact absurd rfl (hkind n)
    | _ => rfl
  obtain rfl := name_eq_ok_iff.mp hname
  refine Breaks.behind_token (q := .assigned r) ?_ rfl
  obtain hequals | ⟨ts₂, hequals, hvalue⟩ := bind_eq_error_iff.mp hrest
  · exact breaks_only_mark (s := .assigned r) hequals rfl
  obtain ⟨equals, rfl⟩ := mark_eq_ok_iff.mp hequals
  refine Breaks.behind_token (q := .value r) ?_ rfl
  obtain hvalue | ⟨⟨v, ts₃⟩, -, hend⟩ := bind_eq_error_iff.mp hvalue
  · exact breaks_value hvalue
  · cases hend

theorem breaks_params {r : Grammar.Receiver} (h : params ts = .error e) :
    Breaks (.param r) ts e := by
  fun_induction params ts with
  | case1 ts e' hparam =>
    cases h
    exact breaks_param hparam
  | case2 => cases h
  | case3 ts p ts₁ hparam ts₂ hcomma e' hparams ih =>
    cases h
    obtain ⟨d, -, rfl⟩ := exists_param hparam
    obtain ⟨comma, rfl⟩ := mark?_eq_some_iff.mp hcomma
    have hrun : (Grammar.State.param r).run d.tokens = some (.given r) :=
      Grammar.State.run_param rfl
    exact ((ih hparams).behind_token (s := .given r) (t := ⟨.comma, comma⟩) rfl).behind hrun
  | case4 => cases h

/-- Reading parameters stops where there is no further comma. -/
theorem next?_of_params {ps : List Param} (h : params ts = .ok (ps, rest)) :
    next? rest ≠ some .comma := by
  fun_induction params ts generalizing ps rest with
  | case1 => cases h
  | case2 ts p ts₁ hparam hcomma =>
    cases h
    exact mark?_eq_none_iff.mp hcomma
  | case3 => cases h
  | case4 ts p ts₁ hparam ts₂ hcomma ps' ts₃ hparams ih =>
    cases h
    exact ih hparams

/-- Behind the parameters of a filter nothing but a comma or a parenthesis can stand. -/
theorem step_given_filter {kind : Token.Kind} (hcomma : kind ≠ .comma)
    (hclosing : kind ≠ .rightParen) :
    (Grammar.State.given .filter).step kind = none := by
  cases kind with
  | comma => exact absurd rfl hcomma
  | rightParen => exact absurd rfl hclosing
  | _ => rfl

theorem breaks_arguments (h : arguments ts = .error e) : Breaks .opened ts e := by
  obtain hparams | ⟨⟨ps, ts₁⟩, hparams, hmark⟩ := bind_eq_error_iff.mp h
  · unfold paramsToParen at hparams
    split at hparams
    · cases hparams
    · rename_i hclosing
      -- no parenthesis comes next, so that a parameter has to come
      refine (breaks_params (r := .filter) hparams).congr (by simp) fun kind hkind =>
        ⟨?_, .inr rfl⟩
      have hne : kind ≠ .rightParen := fun heq =>
        mark?_eq_none_iff.mp hclosing (hkind.trans (congrArg some heq))
      cases kind with
      | rightParen => exact absurd rfl hne
      | _ => rfl
  · unfold paramsToParen at hparams
    split at hparams
    · rename_i hclosing
      cases hparams
      obtain ⟨closing, rfl⟩ := mark?_eq_some_iff.mp hclosing
      cases hmark
    · obtain ⟨d, -, rfl⟩ := exists_params hparams
      have hrun : Grammar.State.opened.run d.tokens = some (.given .filter) :=
        Grammar.State.run_params rfl
      obtain hmark | ⟨ts₂, -, hend⟩ := bind_eq_error_iff.mp hmark
      · refine Breaks.behind (breaks_mark (s := .given .filter) hmark (by simp) ?_) hrun
        intro kind hkind hne
        refine step_given_filter (fun heq => next?_of_params hparams ?_) hne
        rw [hkind, heq]
      · cases hend

/-! ### Chains -/

theorem breaks_filter {negated : Bool} (h : filter negated ts = .error e)
    (hs : negated = true ∧ s = .negated ∨
      negated = false ∧ s = .node ∧ next? ts ≠ some .bang ∧ next? ts ≠ some .atSign) :
    Breaks s ts e := by
  unfold filter at h
  split at h
  · rename_i n pos ts
    have hname : s.step (.name n) = some .filter := by
      obtain ⟨-, rfl⟩ | ⟨-, rfl, -⟩ := hs <;> rfl
    refine Breaks.behind_token ?_ hname
    obtain hopening | ⟨ts₁, hopening, hrest⟩ := bind_eq_error_iff.mp h
    · exact breaks_only_mark (s := .filter) hopening rfl
    obtain ⟨opening, rfl⟩ := mark_eq_ok_iff.mp hopening
    refine Breaks.behind_token (q := .opened) ?_ rfl
    obtain harguments | ⟨⟨ps, ts₂⟩, -, hend⟩ := bind_eq_error_iff.mp hrest
    · exact breaks_arguments harguments
    · cases hend
  · rename_i hname
    have hne (kind : Token.Kind) (hkind : next? ts = some kind) (n : String) : kind ≠ .name n := by
      rintro rfl
      obtain ⟨pos, rest, rfl⟩ := exists_cons_of_next? hkind
      exact hname n pos rest rfl
    obtain ⟨rfl, rfl⟩ | ⟨rfl, rfl, hbang, hatSign⟩ := hs
    · refine breaks_unexpected (s := .negated) h (by simp) fun kind hkind => ?_
      cases kind with
      | name n => exact absurd rfl (hne _ hkind n)
      | _ => rfl
    · refine breaks_unexpected (s := .node) h (by simp) fun kind hkind => ?_
      cases kind with
      | name n => exact absurd rfl (hne _ hkind n)
      | bang => exact absurd hkind hbang
      | atSign => exact absurd hkind hatSign
      | _ => rfl

theorem breaks_link (h : link ts = .error e) : Breaks .node ts e := by
  unfold link at h
  split at h
  · rename_i hatSign
    obtain ⟨atSign, rfl⟩ := mark?_eq_some_iff.mp hatSign
    obtain hname | ⟨⟨⟨n, pos⟩, ts₁⟩, -, hend⟩ := bind_eq_error_iff.mp h
    · refine Breaks.behind_token (q := .call) (breaks_name hname rfl (by simp) ?_) rfl
      rintro kind - hkind
      cases kind with
      | name n => exact absurd rfl (hkind n)
      | _ => rfl
    · cases hend
  · rename_i hatSign
    split at h
    · rename_i hbang
      obtain ⟨bang, rfl⟩ := mark?_eq_some_iff.mp hbang
      exact (breaks_filter h (.inl ⟨rfl, rfl⟩)).behind_token rfl
    · rename_i hbang
      exact breaks_filter h (.inr ⟨rfl, rfl, mark?_eq_none_iff.mp hbang,
        mark?_eq_none_iff.mp hatSign⟩)

theorem breaks_chain (h : chain ts = .error e) : Breaks .node ts e := by
  fun_induction chain ts with
  | case1 ts e' hlink =>
    cases h
    exact breaks_link hlink
  | case2 => cases h
  | case3 ts l ts₁ hlink ts₂ hbar e' hchain ih =>
    cases h
    obtain ⟨d, -, rfl⟩ := exists_link hlink
    obtain ⟨bar, rfl⟩ := mark?_eq_some_iff.mp hbar
    have hrun : Grammar.State.node.run d.tokens = some .linked :=
      Grammar.State.run_link d (.inr rfl)
    exact ((ih hchain).behind_token (s := .linked) (t := ⟨.pipe, bar⟩) rfl).behind hrun
  | case4 => cases h

/-- Reading a chain stops where there is no further bar. -/
theorem next?_of_chain {c : Link × List Link} (h : chain ts = .ok (c, rest)) :
    next? rest ≠ some .pipe := by
  fun_induction chain ts generalizing c rest with
  | case1 => cases h
  | case2 ts l ts₁ hlink hbar =>
    cases h
    exact mark?_eq_none_iff.mp hbar
  | case3 => cases h
  | case4 ts l ts₁ hlink ts₂ hbar l' ls ts₃ hchain ih =>
    cases h
    exact ih hchain

/-! ### Rules -/

theorem breaks_paramsBehindColon {b : Bool} (h : paramsBehindColon ts = .error e) :
    Breaks (.produced b) ts e := by
  unfold paramsBehindColon at h
  split at h
  · rename_i hcolon
    obtain ⟨colon, rfl⟩ := mark?_eq_some_iff.mp hcolon
    refine (breaks_params (r := .producer b) h).behind_token ?_
    cases b <;> rfl
  · cases h

/-- What comes next where the parameters of a producer have been read does not belong to them. -/
theorem run_paramsBehindColon {ps : List Param} (h : paramsBehindColon ts = .ok (ps, rest))
    (b : Bool) : ∃ us s, ts = us ++ rest ∧ (Grammar.State.produced b).run us = some s ∧
      s ≠ .done ∧ named s = named (.produced b) ∧
      ∀ kind, next? rest = some kind →
        s.step kind = Grammar.State.lead (Grammar.State.close (.producer b)) kind := by
  unfold paramsBehindColon at h
  split at h
  · rename_i hcolon
    obtain ⟨colon, rfl⟩ := mark?_eq_some_iff.mp hcolon
    have hcomma := next?_of_params h
    obtain ⟨d, -, rfl⟩ := exists_params h
    have hrun : (Grammar.State.param (.producer b)).run d.tokens = some (.given (.producer b)) :=
      Grammar.State.run_params rfl
    refine ⟨⟨.colon, colon⟩ :: d.tokens, .given (.producer b), rfl, ?_, by simp, ?_, ?_⟩
    · rw [run_cons, ← hrun]
      cases b <;> rfl
    · cases b <;> rfl
    · intro kind hkind
      cases kind with
      | comma => exact absurd hkind hcomma
      | _ => cases b <;> rfl
  · rename_i hcolon
    cases h
    refine ⟨[], .produced b, rfl, rfl, by simp, rfl, fun kind hkind => ?_⟩
    cases kind with
    | colon => exact absurd hkind (mark?_eq_none_iff.mp hcolon)
    | _ => cases b <;> rfl

/-- In front of `ts`, the state `s` is like the one behind a link. -/
structure LikeLinked (s : Grammar.State) (ts : List Token) : Prop where
  ne_done : s ≠ .done
  named_eq : named s = named .linked
  step_eq : ∀ kind, next? ts = some kind → s.step kind = Grammar.State.linked.step kind

theorem likeLinked_linked (ts : List Token) : LikeLinked .linked ts :=
  ⟨by simp, rfl, fun _ _ => rfl⟩

theorem breaks_closing {b : Bool} {ps : List Param}
    (hparams : paramsBehindColon ts = .ok (ps, us)) (h : closing b us = .error e) :
    Breaks (.produced b) ts e := by
  obtain ⟨vs, s, rfl, hrun, hdone, hnamed, hstep⟩ := run_paramsBehindColon hparams b
  cases b with
  | false => cases h
  | true =>
    rw [closing, if_pos rfl] at h
    have hmark : mark .greater (named s) us = .error e := by rw [hnamed]; exact h
    refine (breaks_mark hmark hdone fun kind hkind hne => ?_).behind hrun
    rw [hstep kind hkind]
    cases kind with
    | greater => exact absurd rfl hne
    | _ => rfl

theorem run_closing {b : Bool} {ps : List Param} (hparams : paramsBehindColon ts = .ok (ps, us))
    (h : closing b us = .ok rest) : ∃ vs s, ts = vs ++ rest ∧
      (Grammar.State.produced b).run vs = some s ∧ LikeLinked s rest := by
  obtain ⟨vs, s, rfl, hrun, hdone, hnamed, hstep⟩ := run_paramsBehindColon hparams b
  cases b with
  | false =>
    cases h
    exact ⟨vs, s, rfl, hrun, hdone, hnamed, hstep⟩
  | true =>
    rw [closing, if_pos rfl] at h
    obtain ⟨closing, rfl⟩ := mark_eq_ok_iff.mp h
    refine ⟨vs ++ [⟨.greater, closing⟩], .linked, by simp, ?_, likeLinked_linked rest⟩
    rw [run_append_of_eq hrun, run_cons, hstep .greater rfl]
    rfl

theorem breaks_continuation (h : continuation ts = .error e) (hs : LikeLinked s ts) :
    Breaks s ts e := by
  unfold continuation at h
  split at h
  · rename_i hbar
    obtain ⟨bar, rfl⟩ := mark?_eq_some_iff.mp hbar
    split at h
    · cases h
    · rename_i hchain
      cases h
      exact (breaks_chain hchain).behind_token (hs.step_eq .pipe rfl)
  · cases h

theorem run_continuation {ls : List Link} (h : continuation ts = .ok (ls, rest))
    (hs : LikeLinked s ts) : ∃ us s', ts = us ++ rest ∧ s.run us = some s' ∧
      LikeLinked s' rest ∧ next? rest ≠ some .pipe := by
  unfold continuation at h
  split at h
  · rename_i hbar
    obtain ⟨bar, rfl⟩ := mark?_eq_some_iff.mp hbar
    split at h
    · rename_i hchain
      cases h
      have hpipe := next?_of_chain hchain
      obtain ⟨d, -, -, rfl⟩ := exists_chain hchain
      refine ⟨⟨.pipe, bar⟩ :: d.tokens, .linked, rfl, ?_, likeLinked_linked rest, hpipe⟩
      rw [run_cons, hs.step_eq .pipe rfl]
      exact Grammar.State.run_node d (.inr rfl)
    · cases h
  · rename_i hbar
    cases h
    exact ⟨[], s, rfl, rfl, hs, mark?_eq_none_iff.mp hbar⟩

theorem breaks_producer {b : Bool} (h : producer b ts = .error e) : Breaks (.announced b) ts e := by
  obtain hname | ⟨⟨⟨n, pos⟩, ts₁⟩, hname, hrest⟩ := bind_eq_error_iff.mp h
  · refine breaks_name hname rfl (by simp) fun kind _ hkind => ?_
    cases kind with
    | name n => exact absurd rfl (hkind n)
    | _ => rfl
  obtain rfl := name_eq_ok_iff.mp hname
  refine Breaks.behind_token (q := .produced b) ?_ rfl
  obtain hparams | ⟨⟨ps, ts₂⟩, hparams, hrest⟩ := bind_eq_error_iff.mp hrest
  · exact breaks_paramsBehindColon hparams
  obtain hclosing | ⟨ts₃, hclosing, hrest⟩ := bind_eq_error_iff.mp hrest
  · exact breaks_closing hparams hclosing
  obtain hlinks | ⟨⟨ls, ts₄⟩, -, hend⟩ := bind_eq_error_iff.mp hrest
  · obtain ⟨us, s, rfl, hrun, hs⟩ := run_closing hparams hclosing
    exact (breaks_continuation hlinks hs).behind hrun
  · cases hend

theorem run_producer {b : Bool} {body : RuleBody} (h : producer b ts = .ok (body, rest)) :
    ∃ us s, ts = us ++ rest ∧ (Grammar.State.announced b).run us = some s ∧
      LikeLinked s rest ∧ next? rest ≠ some .pipe := by
  obtain ⟨⟨⟨n, pos⟩, ts₁⟩, hname, h⟩ := bind_eq_ok h
  obtain ⟨⟨ps, ts₂⟩, hparams, h⟩ := bind_eq_ok h
  obtain ⟨ts₃, hclosing, h⟩ := bind_eq_ok h
  obtain ⟨⟨ls, ts₄⟩, hlinks, h⟩ := bind_eq_ok h
  cases h
  obtain rfl := name_eq_ok_iff.mp hname
  obtain ⟨us, s, rfl, hus, hs⟩ := run_closing hparams hclosing
  obtain ⟨vs, s', rfl, hvs, hs'⟩ := run_continuation hlinks hs
  refine ⟨⟨.name n, pos⟩ :: (us ++ vs), s', by simp, ?_, hs'⟩
  exact (run_append_of_eq hus vs).trans hvs

theorem breaks_body (h : body ts = .error e) : Breaks .body ts e := by
  -- a node is read alike in front of its first token, wherever it may stand
  have hnode {t : Token} {ts : List Token} (hkind : Grammar.BeginsNode t.kind)
      (h : (chain (t :: ts) >>= fun r => Except.ok (RuleBody.fragment r.1.1 r.1.2, r.2)) =
        .error e) : Breaks .body (t :: ts) e := by
    obtain hchain | ⟨r, -, hend⟩ := bind_eq_error_iff.mp h
    · refine (breaks_chain hchain).congr (by simp) ?_
      rintro kind ⟨⟩
      obtain ⟨n, hn⟩ | hn | hn := hkind <;> rw [hn] <;> exact ⟨rfl, .inl nofun⟩
    · cases hend
  unfold body at h
  split at h
  · exact (breaks_producer h).behind_token rfl
  · exact (breaks_producer h).behind_token rfl
  · exact hnode (.inl ⟨_, rfl⟩) h
  · exact hnode (.inr (.inl rfl)) h
  · exact hnode (.inr (.inr rfl)) h
  · rename_i hless hfrom hname hbang hatSign
    refine breaks_unexpected (s := .body) h (by simp) fun kind hkind => ?_
    obtain ⟨pos, rest, rfl⟩ := exists_cons_of_next? hkind
    cases kind with
    | less => exact absurd rfl (hless pos rest)
    | fromWord => exact absurd rfl (hfrom pos rest)
    | name n => exact absurd rfl (hname n pos rest)
    | bang => exact absurd rfl (hbang pos rest)
    | atSign => exact absurd rfl (hatSign pos rest)
    | _ => rfl

theorem run_body {b : RuleBody} (h : body ts = .ok (b, rest)) :
    ∃ us s, ts = us ++ rest ∧ Grammar.State.body.run us = some s ∧ LikeLinked s rest ∧
      next? rest ≠ some .pipe := by
  have hnode (h : (chain ts >>= fun r => Except.ok (RuleBody.fragment r.1.1 r.1.2, r.2)) =
      .ok (b, rest)) : ∃ us s, ts = us ++ rest ∧ Grammar.State.body.run us = some s ∧
        LikeLinked s rest ∧ next? rest ≠ some .pipe := by
    obtain ⟨⟨⟨l, ls⟩, ts₁⟩, hchain, h⟩ := bind_eq_ok h
    cases h
    have hpipe := next?_of_chain hchain
    obtain ⟨d, -, -, rfl⟩ := exists_chain hchain
    exact ⟨d.tokens, .linked, rfl, Grammar.State.run_node d (.inl rfl), likeLinked_linked _,
      hpipe⟩
  have hproducer {kind : Token.Kind} {pos : Position} {bracketed : Bool} {ts : List Token}
      (h : producer bracketed ts = .ok (b, rest))
      (hstep : Grammar.State.body.step kind = some (.announced bracketed)) :
      ∃ us s, ⟨kind, pos⟩ :: ts = us ++ rest ∧ Grammar.State.body.run us = some s ∧
        LikeLinked s rest ∧ next? rest ≠ some .pipe := by
    obtain ⟨us, s, rfl, hrun, hs⟩ := run_producer h
    exact ⟨⟨kind, pos⟩ :: us, s, rfl, by rw [run_cons, hstep, Option.bind_some, hrun], hs⟩
  unfold body at h
  split at h
  · exact hproducer h rfl
  · exact hproducer h rfl
  · exact hnode h
  · exact hnode h
  · exact hnode h
  · exact absurd h unexpected_ne_ok

theorem breaks_rule (h : rule ts = .error e) (hend : next? ts ≠ some .endOfFile) :
    Breaks .rule ts e := by
  obtain hname | ⟨⟨⟨n, pos⟩, ts₁⟩, hname, hrest⟩ := bind_eq_error_iff.mp h
  · refine breaks_name hname rfl (by simp) fun kind hnext hkind => ?_
    cases kind with
    | name n => exact absurd rfl (hkind n)
    | endOfFile => exact absurd hnext hend
    | _ => rfl
  obtain rfl := name_eq_ok_iff.mp hname
  refine Breaks.behind_token (q := .named) ?_ rfl
  obtain harrow | ⟨ts₂, harrow, hbody⟩ := bind_eq_error_iff.mp hrest
  · exact breaks_only_mark (s := .named) harrow rfl
  obtain ⟨arrow, rfl⟩ := mark_eq_ok_iff.mp harrow
  refine Breaks.behind_token (q := .body) ?_ rfl
  obtain hbody | ⟨⟨b, ts₃⟩, hbody, hsemicolon⟩ := bind_eq_error_iff.mp hbody
  · exact breaks_body hbody
  obtain hsemicolon | ⟨ts₄, -, hok⟩ := bind_eq_error_iff.mp hsemicolon
  · obtain ⟨us, s, rfl, hrun, hs, hpipe⟩ := run_body hbody
    have hmark : mark .semicolon (named s) ts₃ = .error e := by rw [hs.named_eq]; exact hsemicolon
    refine (breaks_mark hmark hs.ne_done fun kind hkind hne => ?_).behind hrun
    rw [hs.step_eq kind hkind]
    cases kind with
    | pipe => exact absurd hkind hpipe
    | semicolon => exact absurd rfl hne
    | _ => rfl
  · cases hok

theorem breaks_file (h : file ts = .error e) : Breaks .rule ts e := by
  fun_induction file ts with
  | case1 => cases h
  | case2 ts hend e' hrule =>
    cases h
    exact breaks_rule hrule (mark?_eq_none_iff.mp hend)
  | case3 ts hend r ts₁ hrule e' hfile ih =>
    cases h
    obtain ⟨d, -, rfl⟩ := exists_rule hrule
    exact (ih hfile).behind (Grammar.State.run_rule d)
  | case4 => cases h

/-! ### Prefixes of sentences -/

/-- What leads to the end of the file has a derivation. -/
theorem exists_file_of_run (h : Grammar.State.rule.run ts = some .done) :
    ∃ d : Grammar.File, d.tokens = ts := by
  cases hfile : file ts with
  | error e =>
    obtain ⟨before, t, behind, s, rfl, hrun, hstep, -⟩ | ⟨s, hrun, hdone⟩ := breaks_file hfile
    · rw [run_append_of_eq hrun, run_cons, hstep] at h
      cases h
    · exact absurd (Option.some.inj (hrun.symm.trans h)) hdone
  | ok rs =>
    obtain ⟨d, rest, -, rfl⟩ := exists_file hfile
    rw [run_append_of_eq (Grammar.State.run_file d)] at h
    exact ⟨d, by rw [Grammar.State.run_done h, List.append_nil]⟩

/-- A sentence begins with the tokens that lead somewhere. -/
theorem viable_iff {before : List Token} :
    Viable before ↔ ∃ s, Grammar.State.rule.run before = some s := by
  refine ⟨Grammar.State.exists_run_of_viable, ?_⟩
  rintro ⟨s, hrun⟩
  obtain ⟨behind, hbehind⟩ := s.exists_run_done
  obtain ⟨d, hd⟩ := exists_file_of_run ((run_append_of_eq hrun behind).trans hbehind)
  exact ⟨d, behind, hd.symm⟩

theorem viable_concat_iff {before : List Token} (h : Grammar.State.rule.run before = some s)
    (t : Token) : Viable (before ++ [t]) ↔ (s.step t.kind).isSome := by
  rw [viable_iff, run_append_of_eq h, run_cons]
  cases s.step t.kind <;> simp

/-- A list of tokens has no two places where it leaves all sentences. -/
theorem place_unique {before behind before' behind' : List Token} {t t' : Token}
    (h : before ++ t :: behind = before' ++ t' :: behind')
    (hviable : Viable before) (hnot : ¬Viable (before ++ [t]))
    (hviable' : Viable before') (hnot' : ¬Viable (before' ++ [t'])) :
    before' = before ∧ t' = t := by
  obtain ⟨cs, rfl, hcs⟩ | ⟨cs, rfl, hcs⟩ := List.append_eq_append_iff.mp h
  · cases cs with
    | nil =>
      obtain ⟨rfl, -⟩ := List.cons.inj hcs
      exact ⟨List.append_nil _, rfl⟩
    | cons c cs =>
      obtain ⟨rfl, -⟩ := List.cons.inj hcs
      exact absurd (hviable'.of_prefix ⟨cs, by simp⟩) hnot
  · cases cs with
    | nil =>
      obtain ⟨rfl, -⟩ := List.cons.inj hcs
      exact ⟨(List.append_nil _).symm, rfl⟩
    | cons c cs =>
      obtain ⟨rfl, -⟩ := List.cons.inj hcs
      exact absurd (hviable.of_prefix ⟨cs, by simp⟩) hnot'

/-- The tokens of a text are refused just where they lead nowhere. -/
theorem file_eq_error_iff {source : String} (htokens : tokenize source = .ok ts) :
    file ts = .error e ↔ ∃ before t behind s, ts = before ++ t :: behind ∧
      Grammar.State.rule.run before = some s ∧ s.step t.kind = none ∧
      e = ⟨t.pos, .unexpectedToken t.kind, named s⟩ := by
  obtain ⟨ls, hls, hkinds⟩ := Lexer.tokensFrom_lexemes htokens
  obtain ⟨init, pos, hts, hinit⟩ := hls.endOfFile_last hkinds
  have refused {e : SyntaxError} (h : file ts = .error e) : ∃ before t behind s,
      ts = before ++ t :: behind ∧ Grammar.State.rule.run before = some s ∧
      s.step t.kind = none ∧ e = ⟨t.pos, .unexpectedToken t.kind, named s⟩ := by
    obtain hfault | ⟨s, hrun, hdone⟩ := breaks_file h
    · exact hfault
    -- the end of the file comes last, and nothing but the last state lies behind it
    rw [hts, Grammar.State.run_append] at hrun
    obtain ⟨s', -, hend⟩ := Option.bind_eq_some_iff.mp hrun
    obtain ⟨s'', hstep, hs⟩ := Option.bind_eq_some_iff.mp hend
    cases hs
    exact absurd (Grammar.State.step_endOfFile hstep) hdone
  refine ⟨refused, ?_⟩
  rintro ⟨before, t, behind, s, hsplit, hrun, hstep, rfl⟩
  cases hfile : file ts with
  | ok rs =>
    obtain ⟨d, rest, -, hd⟩ := exists_file hfile
    have hnil : rest = [] := rest_eq_nil hinit (hts.symm.trans hd)
    have hdone := Grammar.State.run_file d
    rw [hnil, List.append_nil] at hd
    rw [← hd, hsplit, run_append_of_eq hrun, run_cons, hstep] at hdone
    cases hdone
  | error e =>
    obtain ⟨before', t', behind', s', hsplit', hrun', hstep', rfl⟩ := refused hfile
    obtain ⟨rfl, rfl⟩ := place_unique (hsplit.symm.trans hsplit') (viable_iff.mpr ⟨s, hrun⟩)
      (by simp [viable_concat_iff hrun, hstep]) (viable_iff.mpr ⟨s', hrun'⟩)
      (by simp [viable_concat_iff hrun', hstep'])
    obtain rfl := Option.some.inj (hrun.symm.trans hrun')
    rfl

/-- The error is about the first token that no sentence goes on with, and about no other. -/
theorem blames_first_wrong_token {source : String} {tokens : List Token}
    (htokens : tokenize source = .ok tokens) (h : file tokens = .error e) :
    ∃ before t behind, tokens = before ++ t :: behind ∧
      Viable before ∧ ¬Viable (before ++ [t]) ∧
      e.pos = t.pos ∧ e.fault = .unexpectedToken t.kind ∧
      e.fault.message = "unexpected " ++ t.kind.describe ∧
      ∀ before' t' behind', tokens = before' ++ t' :: behind' → Viable before' →
        ¬Viable (before' ++ [t']) → before' = before ∧ t' = t := by
  obtain ⟨before, t, behind, s, rfl, hrun, hstep, rfl⟩ := (file_eq_error_iff htokens).mp h
  have hviable : Viable before := viable_iff.mpr ⟨s, hrun⟩
  have hnot : ¬Viable (before ++ [t]) := by simp [viable_concat_iff hrun, hstep]
  exact ⟨before, t, behind, rfl, hviable, hnot, rfl, rfl, rfl,
    fun _ _ _ hsplit => place_unique hsplit hviable hnot⟩

/-- A comma in front of a parenthesis, in a rule that a producer without brackets feeds. -/
theorem blames_first_wrong_token_comma :
    let source := "a is from t | !f(x=\"1\",) ;"
    ∃ tokens e, tokenize source = .ok tokens ∧ file tokens = .error e ∧
      ∃ before t behind, tokens = before ++ t :: behind ∧ Viable before ∧
        ¬Viable (before ++ [t]) ∧ e.pos = t.pos ∧ e.pos = ⟨1, 24⟩ ∧
        e.fault.message = "unexpected `)`" := by
  intro source
  let front : List Token := [⟨.name "a", ⟨1, 1⟩⟩, ⟨.arrow, ⟨1, 3⟩⟩, ⟨.fromWord, ⟨1, 6⟩⟩,
    ⟨.name "t", ⟨1, 11⟩⟩, ⟨.pipe, ⟨1, 13⟩⟩, ⟨.bang, ⟨1, 15⟩⟩, ⟨.name "f", ⟨1, 16⟩⟩,
    ⟨.leftParen, ⟨1, 17⟩⟩, ⟨.name "x", ⟨1, 18⟩⟩, ⟨.equals, ⟨1, 19⟩⟩, ⟨.text "1", ⟨1, 20⟩⟩,
    ⟨.comma, ⟨1, 23⟩⟩]
  have htokens : tokenize source = .ok (front ++ ⟨.rightParen, ⟨1, 24⟩⟩ ::
      [⟨.semicolon, ⟨1, 26⟩⟩, ⟨.endOfFile, ⟨1, 27⟩⟩]) := by cbv
  have hrun : Grammar.State.rule.run front = some (.param .filter) := rfl
  have hfile := (file_eq_error_iff htokens).mpr ⟨front, _, _, _, rfl, hrun, rfl, rfl⟩
  obtain ⟨before, t, behind, hsplit, hviable, hnot, hpos, -⟩ :=
    blames_first_wrong_token htokens hfile
  exact ⟨_, _, htokens, hfile, before, t, behind, hsplit, hviable, hnot, hpos, rfl, rfl⟩

end Parser
end RuleGraph
