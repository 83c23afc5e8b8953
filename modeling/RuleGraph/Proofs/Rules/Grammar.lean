import Mathlib.Logic.Function.Basic
import RuleGraph.Rules.File
import RuleGraph.Rules.Token

/-!
# The grammar of rule files

    file      := rule* EOF
    rule      := IDENT "=>" (producer | node) ";"
    producer  := "<" IDENT (":" params)? ">" ("|" node)?
               | "from" IDENT (":" params)? ("|" node)?
    node      := "!"? IDENT "(" params? ")" ("|" node)?
               | "@" IDENT ("|" node)?
    params    := param ("," param)*
    param     := IDENT "=" (STRING | NUMBER)

A derivation of a part of this grammar is a value of the type of that name, and keeps the position
of every token. It has the `tokens` that it derives, in order, and the syntax that it stands for.
No list of tokens has two derivations.
-/
namespace RuleGraph.Grammar

/-- `IDENT` -/
structure Word where
  text : String
  pos : Position

/-- `STRING | NUMBER` -/
inductive Value
  | text (value : String) (pos : Position)
  | number (value : Binary64) (pos : Position)

/-- `IDENT "=" (STRING | NUMBER)` -/
structure Param where
  name : Word
  equals : Position
  value : Value

/-- `param ("," param)*` -/
structure Params where
  first : Param
  more : List (Position × Param)

/-- What a node begins with: `"!"? IDENT "(" params? ")"` or `"@" IDENT`. -/
inductive Link
  | filter (bang : Option Position) (name : Word) (opening : Position) (params : Option Params)
      (closing : Position)
  | call (atSign : Position) (rule : Word)

/-- A link with the `("|" node)?` in which both forms of a node end. -/
inductive Node
  | last (link : Link)
  | pipe (link : Link) (bar : Position) (next : Node)

/-- A producer, with and without brackets. -/
inductive Producer
  | bracketed (opening : Position) (name : Word) (params : Option (Position × Params))
      (closing : Position) (next : Option (Position × Node))
  | worded (fromWord : Position) (name : Word) (params : Option (Position × Params))
      (next : Option (Position × Node))

/-- `producer | node` -/
inductive Body
  | producer (producer : Producer)
  | node (node : Node)

/-- `IDENT "=>" (producer | node) ";"` -/
structure Rule where
  name : Word
  arrow : Position
  body : Body
  semicolon : Position

/-- `rule* EOF` -/
structure File where
  rules : List Rule
  endOfFile : Position

/-! ### Derived tokens -/

/-- The tokens of an optional part. -/
def tokens? {α : Type} (tokens : α → List Token) : Option α → List Token
  | none => []
  | some a => tokens a

/-- The tokens of a part behind a mark. -/
def behind {α : Type} (kind : Token.Kind) (tokens : α → List Token) (a : Position × α) :
    List Token := ⟨kind, a.1⟩ :: tokens a.2

def Word.token (w : Word) : Token := ⟨.name w.text, w.pos⟩

def Value.token : Value → Token
  | .text s pos => ⟨.text s, pos⟩
  | .number x pos => ⟨.number x, pos⟩

def Param.tokens (p : Param) : List Token := [p.name.token, ⟨.equals, p.equals⟩, p.value.token]

def Params.tokens (ps : Params) : List Token :=
  ps.first.tokens ++ ps.more.flatMap (behind .comma Param.tokens)

def Link.tokens : Link → List Token
  | .filter bang name opening params closing =>
    tokens? (fun pos => [⟨.bang, pos⟩]) bang ++ name.token :: ⟨.leftParen, opening⟩ ::
      (tokens? Params.tokens params ++ [⟨.rightParen, closing⟩])
  | .call atSign rule => [⟨.atSign, atSign⟩, rule.token]

def Node.tokens : Node → List Token
  | .last link => link.tokens
  | .pipe link bar next => link.tokens ++ ⟨.pipe, bar⟩ :: next.tokens

def Producer.tokens : Producer → List Token
  | .bracketed opening name params closing next =>
    ⟨.less, opening⟩ :: name.token :: (tokens? (behind .colon Params.tokens) params ++
      ⟨.greater, closing⟩ :: tokens? (behind .pipe Node.tokens) next)
  | .worded fromWord name params next =>
    ⟨.fromWord, fromWord⟩ :: name.token :: (tokens? (behind .colon Params.tokens) params ++
      tokens? (behind .pipe Node.tokens) next)

def Body.tokens : Body → List Token
  | .producer p => p.tokens
  | .node n => n.tokens

def Rule.tokens (r : Rule) : List Token :=
  r.name.token :: ⟨.arrow, r.arrow⟩ :: (r.body.tokens ++ [⟨.semicolon, r.semicolon⟩])

def File.tokens (f : File) : List Token :=
  f.rules.flatMap Rule.tokens ++ [⟨.endOfFile, f.endOfFile⟩]

/-! ### Syntax -/

def Value.toValue : Value → ParamValue
  | .text s _ => .text s
  | .number x _ => .number x

def Param.toParam (p : Param) : RuleGraph.Param := ⟨p.name.text, p.value.toValue⟩

def Params.toList (ps : Params) : List RuleGraph.Param :=
  ps.first.toParam :: ps.more.map fun p => p.2.toParam

/-- An optional list of parameters; without it there are none. -/
def params? : Option Params → List RuleGraph.Param
  | none => []
  | some ps => ps.toList

def Link.toLink : Link → RuleGraph.Link
  | .filter bang name _ params _ => .filter name.text (params? params) bang.isSome
  | .call _ rule => .call rule.text

/-- The links of a node, in the order in which they nest. -/
def Node.links : Node → List RuleGraph.Link
  | .last link => [link.toLink]
  | .pipe link _ next => link.toLink :: next.links

def Node.first : Node → RuleGraph.Link
  | .last link => link.toLink
  | .pipe link _ _ => link.toLink

/-- The links behind the first one. -/
def Node.rest : Node → List RuleGraph.Link
  | .last _ => []
  | .pipe _ _ next => next.links

/-- An optional chain behind a producer. -/
def links? : Option (Position × Node) → List RuleGraph.Link
  | none => []
  | some (_, n) => n.links

def Producer.toBody : Producer → RuleBody
  | .bracketed _ name params _ next =>
    .produced ⟨name.text, params? (params.map Prod.snd)⟩ (links? next)
  | .worded _ name params next =>
    .produced ⟨name.text, params? (params.map Prod.snd)⟩ (links? next)

def Body.toBody : Body → RuleBody
  | .producer p => p.toBody
  | .node n => .fragment n.first n.rest

/-- A rule stands where its name stands. -/
def Rule.toRule (r : Rule) : RuleGraph.Rule := ⟨r.name.text, r.name.pos, r.body.toBody⟩

def File.toRules (f : File) : List RuleGraph.Rule := f.rules.map Rule.toRule

theorem Node.links_eq (n : Node) : n.links = n.first :: n.rest := by cases n <;> rfl

/-! ### No list of tokens has two derivations

Each part is told from what follows by the next token alone, so that what two derivations have in
front of one list of tokens is the same, part by part. -/

/-- The kind of the next token. -/
def next? (tokens : List Token) : Option Token.Kind := tokens.head?.map Token.kind

@[simp] theorem next?_cons (t : Token) (ts : List Token) : next? (t :: ts) = some t.kind := rfl

variable {r s : List Token}

@[simp] theorem Word.token_inj {w w' : Word} : w.token = w'.token ↔ w = w' := by
  cases w
  cases w'
  simp [token]

@[simp] theorem Value.token_inj {v v' : Value} : v.token = v'.token ↔ v = v' := by
  cases v <;> cases v' <;> simp [token]

theorem Param.tokens_inj {p p' : Param} (h : p.tokens ++ r = p'.tokens ++ s) :
    p = p' ∧ r = s := by
  obtain ⟨name, equals, value⟩ := p
  obtain ⟨name', equals', value'⟩ := p'
  simpa [tokens, and_assoc] using h

/-- Where the next token tells whether an optional part is there. -/
theorem tokens?_inj {α : Type} {tokens : α → List Token} {a b : Option α}
    (h : tokens? tokens a ++ r = tokens? tokens b ++ s)
    (hsome : ∀ a b, tokens a ++ r = tokens b ++ s → a = b ∧ r = s)
    (hr : ∀ b, next? (tokens b ++ s) ≠ next? r) (hs : ∀ a, next? (tokens a ++ r) ≠ next? s) :
    a = b ∧ r = s := by
  cases a with
  | none =>
    cases b with
    | none => exact ⟨rfl, h⟩
    | some b => exact absurd (congrArg next? h.symm) (hr b)
  | some a =>
    cases b with
    | none => exact absurd (congrArg next? h) (hs a)
    | some b =>
      obtain ⟨rfl, htail⟩ := hsome a b h
      exact ⟨rfl, htail⟩

theorem behind_inj {α : Type} {tokens : α → List Token} {kind : Token.Kind} {a b : Position × α}
    (h : behind kind tokens a ++ r = behind kind tokens b ++ s)
    (hinj : ∀ a b, tokens a ++ r = tokens b ++ s → a = b ∧ r = s) : a = b ∧ r = s := by
  obtain ⟨pos, a⟩ := a
  obtain ⟨pos', b⟩ := b
  simp only [behind, List.cons_append, List.cons.injEq, Token.mk.injEq, true_and] at h
  obtain ⟨rfl, htokens⟩ := h
  obtain ⟨rfl, htail⟩ := hinj a b htokens
  exact ⟨rfl, htail⟩

theorem more_inj {ps ps' : List (Position × Param)}
    (h : ps.flatMap (behind .comma Param.tokens) ++ r =
      ps'.flatMap (behind .comma Param.tokens) ++ s)
    (hr : next? r ≠ some .comma) (hs : next? s ≠ some .comma) : ps = ps' ∧ r = s := by
  induction ps generalizing ps' with
  | nil =>
    cases ps' with
    | nil => exact ⟨rfl, h⟩
    | cons p' ps' => exact absurd (congrArg next? h) hr
  | cons p ps ih =>
    cases ps' with
    | nil => exact absurd (congrArg next? h.symm) hs
    | cons p' ps' =>
      rw [List.flatMap_cons, List.flatMap_cons, List.append_assoc, List.append_assoc] at h
      obtain ⟨pos, p⟩ := p
      obtain ⟨pos', p'⟩ := p'
      simp only [behind, List.cons_append, List.cons.injEq, Token.mk.injEq, true_and] at h
      obtain ⟨rfl, hparam⟩ := h
      obtain ⟨rfl, hmore⟩ := Param.tokens_inj hparam
      obtain ⟨rfl, htail⟩ := ih hmore
      exact ⟨rfl, htail⟩

theorem Params.tokens_inj {ps ps' : Params} (h : ps.tokens ++ r = ps'.tokens ++ s)
    (hr : next? r ≠ some .comma) (hs : next? s ≠ some .comma) : ps = ps' ∧ r = s := by
  obtain ⟨first, more⟩ := ps
  obtain ⟨first', more'⟩ := ps'
  simp only [tokens, List.append_assoc] at h
  obtain ⟨rfl, hmore⟩ := Param.tokens_inj h
  obtain ⟨rfl, htail⟩ := more_inj hmore hr hs
  exact ⟨rfl, htail⟩

theorem Params.next?_tokens (ps : Params) (r : List Token) :
    next? (ps.tokens ++ r) = some (.name ps.first.name.text) := rfl

/-- Parameters in front of a parenthesis, if there are any. -/
theorem arguments_inj {ps ps' : Option Params} {closing closing' : Position}
    (h : tokens? Params.tokens ps ++ ⟨.rightParen, closing⟩ :: r =
      tokens? Params.tokens ps' ++ ⟨.rightParen, closing'⟩ :: s) :
    ps = ps' ∧ closing = closing' ∧ r = s := by
  obtain ⟨rfl, htail⟩ := tokens?_inj h
    (fun _ _ h => Params.tokens_inj h (by simp) (by simp))
    (by simp [Params.next?_tokens]) (by simp [Params.next?_tokens])
  simpa using htail

theorem Link.tokens_inj {l l' : Link} (h : l.tokens ++ r = l'.tokens ++ s) :
    l = l' ∧ r = s := by
  cases l with
  | call atSign rule =>
    cases l' with
    | call atSign' rule' => simpa [tokens, and_assoc] using h
    | filter bang' name' opening' params' closing' =>
      cases bang' <;> simp [tokens, tokens?, Word.token] at h
  | filter bang name opening params closing =>
    cases l' with
    | call atSign' rule' => cases bang <;> simp [tokens, tokens?, Word.token] at h
    | filter bang' name' opening' params' closing' =>
      simp only [tokens, List.append_assoc, List.cons_append, List.nil_append] at h
      obtain ⟨rfl, hname⟩ := tokens?_inj h (by simp) (by simp [Word.token]) (by simp [Word.token])
      simp only [List.cons.injEq, Word.token_inj, Token.mk.injEq, true_and] at hname
      obtain ⟨rfl, rfl, harguments⟩ := hname
      obtain ⟨rfl, rfl, htail⟩ := arguments_inj harguments
      exact ⟨rfl, htail⟩

theorem Node.tokens_inj {n n' : Node} (h : n.tokens ++ r = n'.tokens ++ s)
    (hr : next? r ≠ some .pipe) (hs : next? s ≠ some .pipe) : n = n' ∧ r = s := by
  induction n generalizing n' with
  | last link =>
    cases n' with
    | last link' =>
      obtain ⟨rfl, htail⟩ := Link.tokens_inj h
      exact ⟨rfl, htail⟩
    | pipe link' bar' next' =>
      simp only [tokens, List.append_assoc] at h
      obtain ⟨-, rfl⟩ := Link.tokens_inj h
      exact absurd rfl hr
  | pipe link bar next ih =>
    cases n' with
    | last link' =>
      simp only [tokens, List.append_assoc] at h
      obtain ⟨-, rfl⟩ := Link.tokens_inj h
      exact absurd rfl hs
    | pipe link' bar' next' =>
      simp only [tokens, List.append_assoc, List.cons_append] at h
      obtain ⟨rfl, hbar⟩ := Link.tokens_inj h
      simp only [List.cons.injEq, Token.mk.injEq, true_and] at hbar
      obtain ⟨rfl, hnext⟩ := hbar
      obtain ⟨rfl, htail⟩ := ih hnext
      exact ⟨rfl, htail⟩

/-- The chain behind a producer, if there is one. -/
theorem continuation_inj {n n' : Option (Position × Node)}
    (h : tokens? (behind .pipe Node.tokens) n ++ r =
      tokens? (behind .pipe Node.tokens) n' ++ s)
    (hr : next? r ≠ some .pipe) (hs : next? s ≠ some .pipe) : n = n' ∧ r = s :=
  tokens?_inj h (fun _ _ h => behind_inj h fun _ _ h => Node.tokens_inj h hr hs)
    (fun _ h => hr h.symm) (fun _ h => hs h.symm)

/-- Parameters behind a colon, if there are any, in front of something else. -/
theorem configured_inj {ps ps' : Option (Position × Params)}
    (h : tokens? (behind .colon Params.tokens) ps ++ r =
      tokens? (behind .colon Params.tokens) ps' ++ s)
    (hr : next? r ≠ some .comma ∧ next? r ≠ some .colon)
    (hs : next? s ≠ some .comma ∧ next? s ≠ some .colon) : ps = ps' ∧ r = s :=
  tokens?_inj h (fun _ _ h => behind_inj h fun _ _ h => Params.tokens_inj h hr.1 hs.1)
    (fun _ h => hr.2 h.symm) (fun _ h => hs.2 h.symm)

/-- The tokens that a node begins with. -/
def BeginsNode (kind : Token.Kind) : Prop := (∃ s, kind = .name s) ∨ kind = .bang ∨ kind = .atSign

theorem Link.exists_cons (l : Link) : ∃ t ts, l.tokens = t :: ts ∧ BeginsNode t.kind := by
  cases l with
  | filter bang name opening params closing =>
    cases bang with
    | none => exact ⟨_, _, rfl, .inl ⟨_, rfl⟩⟩
    | some pos => exact ⟨_, _, rfl, .inr (.inl rfl)⟩
  | call atSign rule => exact ⟨_, _, rfl, .inr (.inr rfl)⟩

theorem Node.exists_cons (n : Node) : ∃ t ts, n.tokens = t :: ts ∧ BeginsNode t.kind := by
  cases n with
  | last link => exact link.exists_cons
  | pipe link bar next =>
    obtain ⟨t, ts, htokens, hkind⟩ := link.exists_cons
    exact ⟨t, ts ++ ⟨.pipe, bar⟩ :: next.tokens, by simp [tokens, htokens], hkind⟩

/-- No producer begins as a node does. -/
theorem Producer.not_beginsNode (p : Producer) {t : Token} {ts : List Token}
    (h : p.tokens ++ r = t :: ts) : ¬BeginsNode t.kind := by
  cases p <;> obtain ⟨rfl, -⟩ := List.cons.inj h <;> simp [BeginsNode]

/-- The parameters of a producer end in front of a chain and of a semicolon. -/
theorem next?_continuation (n : Option (Position × Node)) (semicolon : Position) :
    next? (tokens? (behind .pipe Node.tokens) n ++ ⟨.semicolon, semicolon⟩ :: r) ≠ some .comma ∧
      next? (tokens? (behind .pipe Node.tokens) n ++ ⟨.semicolon, semicolon⟩ :: r) ≠
        some .colon := by
  cases n <;> simp [tokens?, behind]

/-- A producer in front of a semicolon. -/
theorem Producer.tokens_inj {p p' : Producer} {semicolon semicolon' : Position}
    (h : p.tokens ++ ⟨.semicolon, semicolon⟩ :: r = p'.tokens ++ ⟨.semicolon, semicolon'⟩ :: s) :
    p = p' ∧ semicolon = semicolon' ∧ r = s := by
  cases p with
  | bracketed opening name params closing next =>
    cases p' with
    | bracketed opening' name' params' closing' next' =>
      simp only [tokens, List.cons_append, List.append_assoc, List.cons.injEq, Token.mk.injEq,
        true_and, Word.token_inj] at h
      obtain ⟨rfl, rfl, hparams⟩ := h
      obtain ⟨rfl, hclosing⟩ := configured_inj hparams (by simp) (by simp)
      simp only [List.cons.injEq, Token.mk.injEq, true_and] at hclosing
      obtain ⟨rfl, hnext⟩ := hclosing
      obtain ⟨rfl, htail⟩ := continuation_inj hnext (by simp) (by simp)
      exact ⟨rfl, by simpa using htail⟩
    | worded fromWord' name' params' next' => simp [tokens] at h
  | worded fromWord name params next =>
    cases p' with
    | bracketed opening' name' params' closing' next' => simp [tokens] at h
    | worded fromWord' name' params' next' =>
      simp only [tokens, List.cons_append, List.append_assoc, List.cons.injEq, Token.mk.injEq,
        true_and, Word.token_inj] at h
      obtain ⟨rfl, rfl, hparams⟩ := h
      obtain ⟨rfl, hnext⟩ :=
        configured_inj hparams (next?_continuation next semicolon)
          (next?_continuation next' semicolon')
      obtain ⟨rfl, htail⟩ := continuation_inj hnext (by simp) (by simp)
      exact ⟨rfl, by simpa using htail⟩

theorem Body.tokens_inj {b b' : Body} {semicolon semicolon' : Position}
    (h : b.tokens ++ ⟨.semicolon, semicolon⟩ :: r = b'.tokens ++ ⟨.semicolon, semicolon'⟩ :: s) :
    b = b' ∧ semicolon = semicolon' ∧ r = s := by
  have hapart (p : Producer) (n : Node) (ts us : List Token) :
      p.tokens ++ ts ≠ n.tokens ++ us := by
    obtain ⟨t, rest, htokens, hkind⟩ := n.exists_cons
    rw [htokens]
    exact fun h => p.not_beginsNode h hkind
  cases b with
  | producer p =>
    cases b' with
    | producer p' =>
      obtain ⟨rfl, htail⟩ := Producer.tokens_inj h
      exact ⟨rfl, htail⟩
    | node n' => exact absurd h (hapart p n' _ _)
  | node n =>
    cases b' with
    | producer p' => exact absurd h.symm (hapart p' n _ _)
    | node n' =>
      obtain ⟨rfl, htail⟩ := Node.tokens_inj h (by simp) (by simp)
      exact ⟨rfl, by simpa using htail⟩

theorem Rule.tokens_inj {a b : Rule} (h : a.tokens ++ r = b.tokens ++ s) : a = b ∧ r = s := by
  obtain ⟨name, arrow, body, semicolon⟩ := a
  obtain ⟨name', arrow', body', semicolon'⟩ := b
  simp only [tokens, List.cons_append, List.append_assoc, List.nil_append, List.cons.injEq,
    Word.token_inj, Token.mk.injEq, true_and] at h
  obtain ⟨rfl, rfl, hbody⟩ := h
  obtain ⟨rfl, rfl, htail⟩ := Body.tokens_inj hbody
  exact ⟨rfl, htail⟩

theorem rules_inj {as bs : List Rule} {pos pos' : Position}
    (h : as.flatMap Rule.tokens ++ [⟨.endOfFile, pos⟩] =
      bs.flatMap Rule.tokens ++ [⟨.endOfFile, pos'⟩]) : as = bs ∧ pos = pos' := by
  induction as generalizing bs with
  | nil =>
    cases bs with
    | nil => simpa using h
    | cons b bs => simp [Rule.tokens, Word.token] at h
  | cons a as ih =>
    cases bs with
    | nil => simp [Rule.tokens, Word.token] at h
    | cons b bs =>
      rw [List.flatMap_cons, List.flatMap_cons, List.append_assoc, List.append_assoc] at h
      obtain ⟨rfl, hrest⟩ := Rule.tokens_inj h
      obtain ⟨rfl, hpos⟩ := ih hrest
      exact ⟨rfl, hpos⟩

/-- No list of tokens has two derivations. -/
theorem File.tokens_injective : Function.Injective File.tokens := by
  rintro ⟨rules, pos⟩ ⟨rules', pos'⟩ h
  obtain ⟨rfl, rfl⟩ := rules_inj h
  rfl

end RuleGraph.Grammar
