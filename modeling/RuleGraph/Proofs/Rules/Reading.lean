import RuleGraph.Proofs.Rules.Grammar
import RuleGraph.Rules.Parser

/-!
# Rules are read by the grammar

What a production takes from a list of tokens has a derivation that stands for what it gives. The
other way round, it takes what is derived, as long as the next token is none with which the
derived part could go on: a comma behind parameters, a bar behind a chain. A whole file is read
just when it has a derivation, which then is the only one.
-/
namespace RuleGraph.Parser

open Grammar (next? tokens? behind)

variable {ts rest : List Token}

theorem bind_eq_ok_iff {α β : Type} {x : Except SyntaxError α} {f : α → Except SyntaxError β}
    {b : β} : (x >>= f) = .ok b ↔ ∃ a, x = .ok a ∧ f a = .ok b := by
  refine ⟨bind_eq_ok, ?_⟩
  rintro ⟨a, rfl, h⟩
  exact h

theorem unexpected_ne_ok {α : Type} {expected : List Expected} {a : α} :
    unexpected expected ts ≠ .ok a := by
  cases ts <;> simp [unexpected]

theorem name_eq_ok_iff {label : Expected} {s : String} {pos : Position} :
    name label ts = .ok ((s, pos), rest) ↔ ts = ⟨.name s, pos⟩ :: rest := by
  constructor
  · intro h
    unfold name at h
    split at h
    · cases h
      rfl
    · exact absurd h unexpected_ne_ok
  · rintro rfl
    rfl

theorem mark_eq_ok_iff {kind : Token.Kind} {expected : List Expected} :
    mark kind expected ts = .ok rest ↔ ∃ pos, ts = ⟨kind, pos⟩ :: rest := by
  constructor
  · intro h
    unfold mark at h
    split at h
    · exact absurd h unexpected_ne_ok
    · rename_i t ts
      split at h
      · rename_i hkind
        cases h
        exact ⟨t.pos, by rw [← hkind]⟩
      · exact absurd h unexpected_ne_ok
  · rintro ⟨pos, rfl⟩
    simp [mark]

theorem mark?_eq_some_iff {kind : Token.Kind} :
    mark? kind ts = some rest ↔ ∃ pos, ts = ⟨kind, pos⟩ :: rest := by
  constructor
  · intro h
    unfold mark? at h
    split at h
    · cases h
    · rename_i t ts
      split at h
      · rename_i hkind
        cases h
        exact ⟨t.pos, by rw [← hkind]⟩
      · cases h
  · rintro ⟨pos, rfl⟩
    simp [mark?]

theorem mark?_eq_none_iff {kind : Token.Kind} : mark? kind ts = none ↔ next? ts ≠ some kind := by
  cases ts with
  | nil => simp [mark?, next?]
  | cons t ts => simp [mark?]

@[simp] theorem mark?_self (kind : Token.Kind) (pos : Position) :
    mark? kind (⟨kind, pos⟩ :: rest) = some rest := mark?_eq_some_iff.mpr ⟨pos, rfl⟩

theorem value_eq_ok_iff {v : ParamValue} :
    value ts = .ok (v, rest) ↔ ∃ d : Grammar.Value, d.toValue = v ∧ ts = d.token :: rest := by
  constructor
  · intro h
    unfold value at h
    split at h
    · rename_i s pos ts
      cases h
      exact ⟨.text s pos, rfl, rfl⟩
    · rename_i x pos ts
      cases h
      exact ⟨.number x pos, rfl, rfl⟩
    · exact absurd h unexpected_ne_ok
  · rintro ⟨d, rfl, rfl⟩
    cases d <;> rfl

/-! ### Parameters -/

theorem exists_param {p : Param} (h : param ts = .ok (p, rest)) :
    ∃ d : Grammar.Param, d.toParam = p ∧ ts = d.tokens ++ rest := by
  obtain ⟨⟨⟨n, pos⟩, ts₁⟩, hname, h⟩ := bind_eq_ok h
  obtain ⟨ts₂, hequals, h⟩ := bind_eq_ok h
  obtain ⟨⟨v, ts₃⟩, hvalue, h⟩ := bind_eq_ok h
  cases h
  obtain ⟨equals, rfl⟩ := mark_eq_ok_iff.mp hequals
  obtain ⟨d, rfl, rfl⟩ := value_eq_ok_iff.mp hvalue
  exact ⟨⟨⟨n, pos⟩, equals, d⟩, rfl, name_eq_ok_iff.mp hname⟩

theorem param_tokens (d : Grammar.Param) (rest : List Token) :
    param (d.tokens ++ rest) = .ok (d.toParam, rest) := by
  obtain ⟨n, equals, v⟩ := d
  cases v <;> rfl

theorem exists_params {ps : List Param} (h : params ts = .ok (ps, rest)) :
    ∃ d : Grammar.Params, d.toList = ps ∧ ts = d.tokens ++ rest := by
  fun_induction params ts generalizing ps rest with
  | case1 => cases h
  | case2 ts p rest' hparam hcomma =>
    cases h
    obtain ⟨d, rfl, rfl⟩ := exists_param hparam
    exact ⟨⟨d, []⟩, rfl, by simp [Grammar.Params.tokens]⟩
  | case3 => cases h
  | case4 ts p ts₁ hparam ts₂ hcomma ps' ts₃ hparams ih =>
    cases h
    obtain ⟨d, rfl, rfl⟩ := exists_param hparam
    obtain ⟨comma, rfl⟩ := mark?_eq_some_iff.mp hcomma
    obtain ⟨ds, rfl, rfl⟩ := ih hparams
    refine ⟨⟨d, (comma, ds.first) :: ds.more⟩, rfl, ?_⟩
    simp [Grammar.Params.tokens, behind]

/-- Reading parameters goes on behind a comma, and nowhere else. -/
theorem params_eq {p : Param} (h : param ts = .ok (p, rest)) :
    params ts = match mark? .comma rest with
      | none => .ok ([p], rest)
      | some behind => (params behind).map fun r => (p :: r.1, r.2) := by
  rw [params]
  split
  · rename_i heq
    simp [h] at heq
  · rename_i heq
    obtain ⟨rfl, rfl⟩ := Prod.mk.inj (Except.ok.inj (h.symm.trans heq))
    split
    · rename_i hcomma
      rw [hcomma]
    · rename_i behind hcomma
      simp only [hcomma]
      cases params behind <;> rfl

theorem params_tokens (d : Grammar.Params) (hrest : next? rest ≠ some .comma) :
    params (d.tokens ++ rest) = .ok (d.toList, rest) := by
  obtain ⟨first, more⟩ := d
  induction more generalizing first with
  | nil =>
    have htokens : (⟨first, []⟩ : Grammar.Params).tokens ++ rest = first.tokens ++ rest := by
      simp [Grammar.Params.tokens]
    rw [htokens, params_eq (param_tokens first rest), mark?_eq_none_iff.mpr hrest]
    rfl
  | cons p more ih =>
    obtain ⟨comma, p⟩ := p
    have htokens : (⟨first, (comma, p) :: more⟩ : Grammar.Params).tokens ++ rest =
        first.tokens ++ ⟨.comma, comma⟩ :: ((⟨p, more⟩ : Grammar.Params).tokens ++ rest) := by
      simp [Grammar.Params.tokens, behind]
    rw [htokens, params_eq (param_tokens first _), mark?_self]
    simp only [ih p]
    rfl

/-- Parameters between parentheses, behind the opening one. -/
theorem exists_arguments {ps : List Param} (h : arguments ts = .ok (ps, rest)) :
    ∃ (d : Option Grammar.Params) (closing : Position), Grammar.params? d = ps ∧
      ts = tokens? Grammar.Params.tokens d ++ ⟨.rightParen, closing⟩ :: rest := by
  obtain ⟨⟨ps, ts₁⟩, hparams, h⟩ := bind_eq_ok h
  obtain ⟨ts₂, hclosing, h⟩ := bind_eq_ok h
  cases h
  obtain ⟨closing, rfl⟩ := mark_eq_ok_iff.mp hclosing
  unfold paramsToParen at hparams
  split at hparams
  · cases hparams
    exact ⟨none, closing, rfl, rfl⟩
  · obtain ⟨d, rfl, rfl⟩ := exists_params hparams
    exact ⟨some d, closing, rfl, rfl⟩

theorem arguments_tokens (d : Option Grammar.Params) (closing : Position) (rest : List Token) :
    arguments (tokens? Grammar.Params.tokens d ++ ⟨.rightParen, closing⟩ :: rest) =
      .ok (Grammar.params? d, rest) := by
  refine bind_eq_ok_iff.mpr ⟨(Grammar.params? d, ⟨.rightParen, closing⟩ :: rest), ?_, ?_⟩
  · cases d with
    | none => simp [paramsToParen, tokens?, Grammar.params?]
    | some d =>
      have hname : mark? .rightParen (d.tokens ++ ⟨.rightParen, closing⟩ :: rest) = none :=
        mark?_eq_none_iff.mpr (by simp [Grammar.Params.next?_tokens])
      simp only [tokens?, paramsToParen, hname]
      exact params_tokens d (by simp)
  · exact bind_eq_ok_iff.mpr ⟨rest, mark_eq_ok_iff.mpr ⟨closing, rfl⟩, rfl⟩

/-! ### Chains -/

theorem exists_filter {negated : Bool} {l : Link} (h : filter negated ts = .ok (l, rest)) :
    ∃ (name : Grammar.Word) (opening : Position) (params : Option Grammar.Params)
      (closing : Position), l = .filter name.text (Grammar.params? params) negated ∧
      ts = name.token :: ⟨.leftParen, opening⟩ ::
        (tokens? Grammar.Params.tokens params ++ ⟨.rightParen, closing⟩ :: rest) := by
  unfold filter at h
  split at h
  · rename_i n pos ts
    obtain ⟨ts₁, hopening, h⟩ := bind_eq_ok h
    obtain ⟨⟨ps, ts₂⟩, hparams, h⟩ := bind_eq_ok h
    cases h
    obtain ⟨opening, rfl⟩ := mark_eq_ok_iff.mp hopening
    obtain ⟨params, closing, rfl, rfl⟩ := exists_arguments hparams
    exact ⟨⟨n, pos⟩, opening, params, closing, rfl, rfl⟩
  · exact absurd h unexpected_ne_ok

theorem filter_tokens (negated : Bool) (name : Grammar.Word) (opening : Position)
    (params : Option Grammar.Params) (closing : Position) (rest : List Token) :
    filter negated (name.token :: ⟨.leftParen, opening⟩ ::
        (tokens? Grammar.Params.tokens params ++ ⟨.rightParen, closing⟩ :: rest)) =
      .ok (.filter name.text (Grammar.params? params) negated, rest) :=
  bind_eq_ok_iff.mpr ⟨_, mark_eq_ok_iff.mpr ⟨opening, rfl⟩,
    bind_eq_ok_iff.mpr ⟨_, arguments_tokens params closing rest, rfl⟩⟩

theorem exists_link {l : Link} (h : link ts = .ok (l, rest)) :
    ∃ d : Grammar.Link, d.toLink = l ∧ ts = d.tokens ++ rest := by
  unfold link at h
  split at h
  · rename_i hatSign
    obtain ⟨atSign, rfl⟩ := mark?_eq_some_iff.mp hatSign
    obtain ⟨⟨⟨n, pos⟩, ts₁⟩, hname, h⟩ := bind_eq_ok h
    cases h
    obtain rfl := name_eq_ok_iff.mp hname
    exact ⟨.call atSign ⟨n, pos⟩, rfl, rfl⟩
  · split at h
    · rename_i hbang
      obtain ⟨bang, rfl⟩ := mark?_eq_some_iff.mp hbang
      obtain ⟨name, opening, params, closing, rfl, rfl⟩ := exists_filter h
      exact ⟨.filter (some bang) name opening params closing, rfl,
        by simp [Grammar.Link.tokens, tokens?]⟩
    · obtain ⟨name, opening, params, closing, rfl, rfl⟩ := exists_filter h
      exact ⟨.filter none name opening params closing, rfl,
        by simp [Grammar.Link.tokens, tokens?]⟩

theorem link_tokens (d : Grammar.Link) (rest : List Token) :
    link (d.tokens ++ rest) = .ok (d.toLink, rest) := by
  cases d with
  | call atSign rule => rfl
  | filter bang name opening params closing =>
    have hfilter (negated : Bool) := filter_tokens negated name opening params closing rest
    cases bang with
    | none =>
      have hother (kind : Token.Kind) (hkind : name.token.kind ≠ kind) (ts : List Token) :
          mark? kind (name.token :: ts) = none :=
        mark?_eq_none_iff.mpr (by simpa using hkind)
      simp only [Grammar.Link.tokens, tokens?, List.nil_append, List.cons_append,
        List.append_assoc, link, hother .atSign (by simp [Grammar.Word.token]),
        hother .bang (by simp [Grammar.Word.token])]
      exact hfilter false
    | some pos =>
      have hbang (ts : List Token) : mark? .atSign (⟨.bang, pos⟩ :: ts) = none :=
        mark?_eq_none_iff.mpr (by simp)
      simp only [Grammar.Link.tokens, tokens?, List.nil_append, List.cons_append,
        List.append_assoc, link, hbang, mark?_self]
      exact hfilter true

theorem exists_chain {l : Link} {ls : List Link} (h : chain ts = .ok ((l, ls), rest)) :
    ∃ d : Grammar.Node, d.first = l ∧ d.rest = ls ∧ ts = d.tokens ++ rest := by
  fun_induction chain ts generalizing l ls rest with
  | case1 => cases h
  | case2 ts l rest' hlink hbar =>
    cases h
    obtain ⟨d, rfl, rfl⟩ := exists_link hlink
    exact ⟨.last d, rfl, rfl, rfl⟩
  | case3 => cases h
  | case4 ts l ts₁ hlink ts₂ hbar l' ls' ts₃ hchain ih =>
    cases h
    obtain ⟨d, rfl, rfl⟩ := exists_link hlink
    obtain ⟨bar, rfl⟩ := mark?_eq_some_iff.mp hbar
    obtain ⟨next, rfl, rfl, rfl⟩ := ih hchain
    exact ⟨.pipe d bar next, rfl, next.links_eq, by simp [Grammar.Node.tokens]⟩

/-- Reading a chain goes on behind a bar, and nowhere else. -/
theorem chain_eq {l : Link} (h : link ts = .ok (l, rest)) :
    chain ts = match mark? .pipe rest with
      | none => .ok ((l, []), rest)
      | some behind => (chain behind).map fun r => ((l, r.1.1 :: r.1.2), r.2) := by
  rw [chain]
  split
  · rename_i heq
    simp [h] at heq
  · rename_i heq
    obtain ⟨rfl, rfl⟩ := Prod.mk.inj (Except.ok.inj (h.symm.trans heq))
    split
    · rename_i hbar
      rw [hbar]
    · rename_i behind hbar
      simp only [hbar]
      cases chain behind <;> rfl

theorem chain_tokens (d : Grammar.Node) (hrest : next? rest ≠ some .pipe) :
    chain (d.tokens ++ rest) = .ok ((d.first, d.rest), rest) := by
  induction d with
  | last link =>
    rw [Grammar.Node.tokens, chain_eq (link_tokens link rest), mark?_eq_none_iff.mpr hrest]
    rfl
  | pipe link bar next ih =>
    rw [Grammar.Node.tokens, List.append_assoc, chain_eq (link_tokens link _), List.cons_append,
      mark?_self]
    simp only [ih, Except.map]
    rw [← next.links_eq]
    rfl

theorem exists_continuation {ls : List Link} (h : continuation ts = .ok (ls, rest)) :
    ∃ d : Option (Position × Grammar.Node), Grammar.links? d = ls ∧
      ts = tokens? (behind .pipe Grammar.Node.tokens) d ++ rest := by
  unfold continuation at h
  split at h
  · rename_i hbar
    obtain ⟨bar, rfl⟩ := mark?_eq_some_iff.mp hbar
    split at h
    · rename_i hchain
      cases h
      obtain ⟨d, rfl, rfl, rfl⟩ := exists_chain hchain
      exact ⟨some (bar, d), d.links_eq, rfl⟩
    · cases h
  · cases h
    exact ⟨none, rfl, rfl⟩

theorem continuation_tokens (d : Option (Position × Grammar.Node))
    (hrest : next? rest ≠ some .pipe) :
    continuation (tokens? (behind .pipe Grammar.Node.tokens) d ++ rest) =
      .ok (Grammar.links? d, rest) := by
  cases d with
  | none => simp [tokens?, continuation, mark?_eq_none_iff.mpr hrest, Grammar.links?]
  | some d =>
    obtain ⟨bar, d⟩ := d
    simp [tokens?, behind, continuation, chain_tokens d hrest, Grammar.links?, d.links_eq]

/-! ### Rules -/

theorem exists_paramsBehindColon {ps : List Param} (h : paramsBehindColon ts = .ok (ps, rest)) :
    ∃ d : Option (Position × Grammar.Params), Grammar.params? (d.map Prod.snd) = ps ∧
      ts = tokens? (behind .colon Grammar.Params.tokens) d ++ rest := by
  unfold paramsBehindColon at h
  split at h
  · rename_i hcolon
    obtain ⟨colon, rfl⟩ := mark?_eq_some_iff.mp hcolon
    obtain ⟨d, rfl, rfl⟩ := exists_params h
    exact ⟨some (colon, d), rfl, rfl⟩
  · cases h
    exact ⟨none, rfl, rfl⟩

theorem paramsBehindColon_tokens (d : Option (Position × Grammar.Params))
    (hcomma : next? rest ≠ some .comma) (hcolon : next? rest ≠ some .colon) :
    paramsBehindColon (tokens? (behind .colon Grammar.Params.tokens) d ++ rest) =
      .ok (Grammar.params? (d.map Prod.snd), rest) := by
  cases d with
  | none => simp [tokens?, paramsBehindColon, mark?_eq_none_iff.mpr hcolon, Grammar.params?]
  | some d =>
    obtain ⟨colon, d⟩ := d
    simp [tokens?, behind, paramsBehindColon, params_tokens d hcomma, Grammar.params?]

/-- A producer behind its first token, which tells whether it has to be closed. -/
theorem exists_producer {bracketed : Bool} {b : RuleBody}
    (h : producer bracketed ts = .ok (b, rest)) (opening : Position) :
    ∃ d : Grammar.Producer, d.toBody = b ∧
      ⟨if bracketed then .less else .fromWord, opening⟩ :: ts = d.tokens ++ rest := by
  obtain ⟨⟨⟨n, pos⟩, ts₁⟩, hname, h⟩ := bind_eq_ok h
  obtain ⟨⟨ps, ts₂⟩, hparams, h⟩ := bind_eq_ok h
  obtain ⟨ts₃, hclosing, h⟩ := bind_eq_ok h
  obtain ⟨⟨ls, ts₄⟩, hlinks, h⟩ := bind_eq_ok h
  cases h
  obtain rfl := name_eq_ok_iff.mp hname
  obtain ⟨params, rfl, rfl⟩ := exists_paramsBehindColon hparams
  obtain ⟨next, rfl, rfl⟩ := exists_continuation hlinks
  unfold closing at hclosing
  cases bracketed with
  | true =>
    obtain ⟨closing, rfl⟩ := mark_eq_ok_iff.mp hclosing
    exact ⟨.bracketed opening ⟨n, pos⟩ params closing next, rfl,
      by simp [Grammar.Producer.tokens, Grammar.Word.token]⟩
  | false =>
    cases hclosing
    exact ⟨.worded opening ⟨n, pos⟩ params next, rfl,
      by simp [Grammar.Producer.tokens, Grammar.Word.token]⟩

theorem exists_body {b : RuleBody} (h : body ts = .ok (b, rest)) :
    ∃ d : Grammar.Body, d.toBody = b ∧ ts = d.tokens ++ rest := by
  have hnode (hchain : (chain ts >>= fun r => Except.ok (.fragment r.1.1 r.1.2, r.2)) =
      .ok (b, rest)) : ∃ d : Grammar.Body, d.toBody = b ∧ ts = d.tokens ++ rest := by
    obtain ⟨⟨⟨l, ls⟩, ts₁⟩, hlinks, h⟩ := bind_eq_ok hchain
    cases h
    obtain ⟨d, rfl, rfl, rfl⟩ := exists_chain hlinks
    exact ⟨.node d, rfl, rfl⟩
  unfold body at h
  split at h
  · rename_i opening ts
    obtain ⟨d, rfl, htokens⟩ := exists_producer h opening
    exact ⟨.producer d, rfl, htokens⟩
  · rename_i opening ts
    obtain ⟨d, rfl, htokens⟩ := exists_producer h opening
    exact ⟨.producer d, rfl, htokens⟩
  · exact hnode h
  · exact hnode h
  · exact hnode h
  · exact absurd h unexpected_ne_ok

/-- A producer in front of a semicolon, where nothing goes on. -/
theorem producer_tokens (d : Grammar.Producer) (semicolon : Position) (rest : List Token) :
    body (d.tokens ++ ⟨.semicolon, semicolon⟩ :: rest) =
      .ok (d.toBody, ⟨.semicolon, semicolon⟩ :: rest) := by
  have hstop : next? (⟨.semicolon, semicolon⟩ :: rest) ≠ some .pipe := by simp
  cases d with
  | bracketed opening n params closing next =>
    simp only [Grammar.Producer.tokens, List.cons_append, List.append_assoc, body]
    have hclosing (ts : List Token) : Parser.closing true (⟨.greater, closing⟩ :: ts) = .ok ts := by
      rw [Parser.closing, if_pos rfl, mark_eq_ok_iff]
      exact ⟨closing, rfl⟩
    exact bind_eq_ok_iff.mpr ⟨((n.text, n.pos), _), rfl, bind_eq_ok_iff.mpr
      ⟨_, paramsBehindColon_tokens params (by simp) (by simp), bind_eq_ok_iff.mpr
        ⟨_, hclosing _, bind_eq_ok_iff.mpr ⟨_, continuation_tokens next hstop, rfl⟩⟩⟩⟩
  | worded opening n params next =>
    obtain ⟨hcomma, hcolon⟩ := Grammar.next?_continuation (r := rest) next semicolon
    simp only [Grammar.Producer.tokens, List.cons_append, List.append_assoc, body]
    exact bind_eq_ok_iff.mpr ⟨((n.text, n.pos), _), rfl, bind_eq_ok_iff.mpr
      ⟨_, paramsBehindColon_tokens params hcomma hcolon, bind_eq_ok_iff.mpr
        ⟨_, rfl, bind_eq_ok_iff.mpr ⟨_, continuation_tokens next hstop, rfl⟩⟩⟩⟩

theorem body_tokens (d : Grammar.Body) (semicolon : Position) (rest : List Token) :
    body (d.tokens ++ ⟨.semicolon, semicolon⟩ :: rest) =
      .ok (d.toBody, ⟨.semicolon, semicolon⟩ :: rest) := by
  cases d with
  | producer p => exact producer_tokens p semicolon rest
  | node n =>
    have hchain : chain (n.tokens ++ ⟨.semicolon, semicolon⟩ :: rest) =
        .ok ((n.first, n.rest), ⟨.semicolon, semicolon⟩ :: rest) := chain_tokens n (by simp)
    obtain ⟨⟨kind, pos⟩, ts, htokens, hkind⟩ := n.exists_cons
    have hbody : body (n.tokens ++ ⟨.semicolon, semicolon⟩ :: rest) =
        (chain (n.tokens ++ ⟨.semicolon, semicolon⟩ :: rest) >>= fun r =>
          Except.ok (.fragment r.1.1 r.1.2, r.2)) := by
      rw [htokens]
      obtain ⟨s, rfl⟩ | rfl | rfl := hkind <;> rfl
    rw [Grammar.Body.tokens, hbody, hchain]
    rfl

theorem exists_rule {r : Rule} (h : rule ts = .ok (r, rest)) :
    ∃ d : Grammar.Rule, d.toRule = r ∧ ts = d.tokens ++ rest := by
  obtain ⟨⟨⟨n, pos⟩, ts₁⟩, hname, h⟩ := bind_eq_ok h
  obtain ⟨ts₂, harrow, h⟩ := bind_eq_ok h
  obtain ⟨⟨b, ts₃⟩, hbody, h⟩ := bind_eq_ok h
  obtain ⟨ts₄, hsemicolon, h⟩ := bind_eq_ok h
  cases h
  obtain rfl := name_eq_ok_iff.mp hname
  obtain ⟨arrow, rfl⟩ := mark_eq_ok_iff.mp harrow
  obtain ⟨d, rfl, rfl⟩ := exists_body hbody
  obtain ⟨semicolon, rfl⟩ := mark_eq_ok_iff.mp hsemicolon
  exact ⟨⟨⟨n, pos⟩, arrow, d, semicolon⟩, rfl, by simp [Grammar.Rule.tokens, Grammar.Word.token]⟩

theorem rule_tokens (d : Grammar.Rule) (rest : List Token) :
    rule (d.tokens ++ rest) = .ok (d.toRule, rest) := by
  simp only [Grammar.Rule.tokens, List.cons_append, List.append_assoc, List.nil_append]
  exact bind_eq_ok_iff.mpr ⟨((d.name.text, d.name.pos), _), rfl, bind_eq_ok_iff.mpr
    ⟨_, mark_eq_ok_iff.mpr ⟨d.arrow, rfl⟩, bind_eq_ok_iff.mpr
      ⟨_, body_tokens d.body d.semicolon rest, bind_eq_ok_iff.mpr
        ⟨_, mark_eq_ok_iff.mpr ⟨d.semicolon, rfl⟩, rfl⟩⟩⟩⟩

/-! ### Files -/

/-- What is read of a file ends at the first end of file; tokens behind it are not looked at. -/
theorem exists_file {rs : List Rule} (h : file ts = .ok rs) :
    ∃ (d : Grammar.File) (rest : List Token), d.toRules = rs ∧ ts = d.tokens ++ rest := by
  fun_induction file ts generalizing rs with
  | case1 ts rest hend =>
    cases h
    obtain ⟨pos, rfl⟩ := mark?_eq_some_iff.mp hend
    exact ⟨⟨[], pos⟩, rest, rfl, rfl⟩
  | case2 => cases h
  | case3 => cases h
  | case4 ts hend r ts₁ hrule rs' hfile ih =>
    cases h
    obtain ⟨d, rfl, rfl⟩ := exists_rule hrule
    obtain ⟨ds, rest, rfl, rfl⟩ := ih hfile
    exact ⟨⟨d :: ds.rules, ds.endOfFile⟩, rest, rfl, by simp [Grammar.File.tokens]⟩

/-- A file is read rule by rule until its end. -/
theorem file_eq {r : Rule} (h : rule ts = .ok (r, rest)) (hend : next? ts ≠ some .endOfFile) :
    file ts = (file rest).map (r :: ·) := by
  rw [file, mark?_eq_none_iff.mpr hend]
  dsimp only
  split
  · rename_i heq
    simp [h] at heq
  · rename_i heq
    obtain ⟨rfl, rfl⟩ := Prod.mk.inj (Except.ok.inj (h.symm.trans heq))
    cases file rest <;> rfl

theorem file_tokens (d : Grammar.File) : file d.tokens = .ok d.toRules := by
  obtain ⟨rules, pos⟩ := d
  induction rules with
  | nil => simp [Grammar.File.tokens, Grammar.File.toRules, file]
  | cons r rules ih =>
    have htokens : (⟨r :: rules, pos⟩ : Grammar.File).tokens =
        r.tokens ++ (⟨rules, pos⟩ : Grammar.File).tokens := by simp [Grammar.File.tokens]
    have hname : next? (r.tokens ++ (⟨rules, pos⟩ : Grammar.File).tokens) =
        some (.name r.name.text) := rfl
    rw [htokens, file_eq (rule_tokens r _) (by simp [hname]), ih]
    rfl

end RuleGraph.Parser
