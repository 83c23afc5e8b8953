import RuleGraph.Proofs.Rules.Spelling

/-!
# Rules in other places

What rules stand for does not depend on where they stand. When all tokens are moved, so are the
rules that they make up, and nothing else about the rules is changed. The tokens of a text that
begins on a later line are moved down by as many lines.
-/
namespace RuleGraph

/-- So many lines further down, in the same column. -/
def Position.down (n : Nat) (p : Position) : Position := ⟨p.line + n, p.column⟩

def Token.move (f : Position → Position) (t : Token) : Token := { t with pos := f t.pos }

/-- A rule that stands in another place and is the same otherwise. -/
def Rule.move (f : Position → Position) (r : Rule) : Rule := { r with pos := f r.pos }

variable (f : Position → Position)

namespace Grammar

/-! ### Derivations of tokens that are moved -/

def Word.move (w : Word) : Word := ⟨w.text, f w.pos⟩

def Value.move : Value → Value
  | .text s pos => .text s (f pos)
  | .number x pos => .number x (f pos)

def Param.move (p : Param) : Param := ⟨p.name.move f, f p.equals, p.value.move f⟩

def Params.move (ps : Params) : Params :=
  ⟨ps.first.move f, ps.more.map (Prod.map f (Param.move f))⟩

def Link.move : Link → Link
  | .filter bang name opening params closing =>
    .filter (bang.map f) (name.move f) (f opening) (params.map (Params.move f)) (f closing)
  | .call atSign rule => .call (f atSign) (rule.move f)

def Node.move : Node → Node
  | .last link => .last (link.move f)
  | .pipe link bar next => .pipe (link.move f) (f bar) next.move

def Producer.move : Producer → Producer
  | .bracketed opening name params closing next =>
    .bracketed (f opening) (name.move f) (params.map (Prod.map f (Params.move f))) (f closing)
      (next.map (Prod.map f (Node.move f)))
  | .worded fromWord name params next =>
    .worded (f fromWord) (name.move f) (params.map (Prod.map f (Params.move f)))
      (next.map (Prod.map f (Node.move f)))

def Body.move : Body → Body
  | .producer p => .producer (p.move f)
  | .node n => .node (n.move f)

def Rule.move (r : Rule) : Rule := ⟨r.name.move f, f r.arrow, r.body.move f, f r.semicolon⟩

def File.move (d : File) : File := ⟨d.rules.map (Rule.move f), f d.endOfFile⟩

/-! ### The tokens that are derived -/

theorem tokens?_move {α : Type} {tokens : α → List Token} {move : α → α}
    (h : ∀ a, tokens (move a) = (tokens a).map (Token.move f)) (a : Option α) :
    tokens? tokens (a.map move) = (tokens? tokens a).map (Token.move f) := by
  cases a with
  | none => rfl
  | some a => exact h a

theorem behind_move {α : Type} {tokens : α → List Token} {move : α → α}
    (h : ∀ a, tokens (move a) = (tokens a).map (Token.move f)) (kind : Token.Kind)
    (a : Position × α) :
    behind kind tokens (Prod.map f move a) = (behind kind tokens a).map (Token.move f) := by
  rw [behind, behind, List.map_cons, ← h]
  rfl

@[simp] theorem Word.token_move (w : Word) : (w.move f).token = w.token.move f := rfl

@[simp] theorem Value.token_move (v : Value) : (v.move f).token = v.token.move f := by
  cases v <;> rfl

@[simp] theorem Param.tokens_move (p : Param) :
    (p.move f).tokens = p.tokens.map (Token.move f) := by
  simp [Param.tokens, Param.move, Token.move]

@[simp] theorem Params.tokens_move (ps : Params) :
    (ps.move f).tokens = ps.tokens.map (Token.move f) := by
  simp only [Params.tokens, Params.move, Param.tokens_move, List.map_append, List.flatMap_map,
    List.map_flatMap, behind_move f (Param.tokens_move f)]

@[simp] theorem Link.tokens_move (l : Link) : (l.move f).tokens = l.tokens.map (Token.move f) := by
  cases l with
  | filter bang name opening params closing =>
    have hbang : tokens? (fun pos => [⟨.bang, pos⟩]) (bang.map f) =
        (tokens? (fun pos => [⟨.bang, pos⟩]) bang).map (Token.move f) := by
      cases bang <;> rfl
    simp [Link.tokens, Link.move, hbang, tokens?_move f (Params.tokens_move f), Token.move]
  | call => rfl

@[simp] theorem Node.tokens_move (n : Node) : (n.move f).tokens = n.tokens.map (Token.move f) := by
  induction n with
  | last link => exact link.tokens_move f
  | pipe link bar next ih => simp [Node.tokens, Node.move, ih, Token.move]

@[simp] theorem Producer.tokens_move (p : Producer) :
    (p.move f).tokens = p.tokens.map (Token.move f) := by
  have hparams := tokens?_move f (behind_move f (Params.tokens_move f) .colon)
  have hnext := tokens?_move f (behind_move f (Node.tokens_move f) .pipe)
  cases p <;> simp [Producer.tokens, Producer.move, hparams, hnext, Token.move]

@[simp] theorem Body.tokens_move (b : Body) : (b.move f).tokens = b.tokens.map (Token.move f) := by
  cases b with
  | producer p => exact p.tokens_move f
  | node n => exact n.tokens_move f

@[simp] theorem Rule.tokens_move (r : Rule) : (r.move f).tokens = r.tokens.map (Token.move f) := by
  simp [Rule.tokens, Rule.move, Token.move]

@[simp] theorem File.tokens_move (d : File) : (d.move f).tokens = d.tokens.map (Token.move f) := by
  simp [File.tokens, File.move, Token.move, List.flatMap_map, List.map_flatMap]

/-! ### The syntax that they stand for -/

@[simp] theorem Param.toParam_move (p : Param) : (p.move f).toParam = p.toParam := by
  obtain ⟨name, equals, value⟩ := p
  cases value <;> rfl

@[simp] theorem Params.toList_move (ps : Params) : (ps.move f).toList = ps.toList := by
  simp [Params.toList, Params.move, Function.comp_def]

@[simp] theorem params?_move (ps : Option Params) :
    params? (ps.map (Params.move f)) = params? ps := by
  cases ps with
  | none => rfl
  | some ps => exact ps.toList_move f

@[simp] theorem Link.toLink_move (l : Link) : (l.move f).toLink = l.toLink := by
  cases l with
  | filter => simp [Link.toLink, Link.move, Word.move]
  | call => rfl

@[simp] theorem Node.first_move (n : Node) : (n.move f).first = n.first := by
  cases n <;> exact Link.toLink_move f _

@[simp] theorem Node.links_move (n : Node) : (n.move f).links = n.links := by
  induction n with
  | last link => simp [Node.links, Node.move]
  | pipe link bar next ih => simp [Node.links, Node.move, ih]

@[simp] theorem Node.rest_move (n : Node) : (n.move f).rest = n.rest := by
  cases n with
  | last => rfl
  | pipe link bar next => exact next.links_move f

@[simp] theorem links?_move (next : Option (Position × Node)) :
    links? (next.map (Prod.map f (Node.move f))) = links? next := by
  cases next with
  | none => rfl
  | some next => exact next.2.links_move f

@[simp] theorem Producer.toBody_move (p : Producer) : (p.move f).toBody = p.toBody := by
  have hparams (ps : Option (Position × Params)) :
      params? ((ps.map (Prod.map f (Params.move f))).map Prod.snd) = params? (ps.map Prod.snd) := by
    rw [← params?_move f (ps.map Prod.snd), Option.map_map, Option.map_map]
    rfl
  cases p <;> simp only [Producer.toBody, Producer.move, hparams, links?_move, Word.move]

@[simp] theorem Body.toBody_move (b : Body) : (b.move f).toBody = b.toBody := by
  cases b with
  | producer p => exact p.toBody_move f
  | node n => simp [Body.toBody, Body.move]

@[simp] theorem Rule.toRule_move (r : Rule) : (r.move f).toRule = r.toRule.move f := by
  simp [Rule.toRule, Rule.move, RuleGraph.Rule.move, Word.move]

theorem File.toRules_move (d : File) :
    (d.move f).toRules = d.toRules.map (RuleGraph.Rule.move f) := by
  simp [File.toRules, File.move]

end Grammar

/-! ### Texts that begin further down -/

namespace Position

theorem advance_down (n : Nat) (p : Position) (c : Char) :
    (p.down n).advance c = (p.advance c).down n := by
  unfold advance
  split
  · simp [down, Nat.add_right_comm]
  · rfl

theorem after_down (n : Nat) (p : Position) (cs : List Char) :
    (p.down n).after cs = (p.after cs).down n := by
  induction cs generalizing p with
  | nil => rfl
  | cons c cs ih =>
    rw [after, after, List.foldl_cons, List.foldl_cons, advance_down]
    exact ih (p.advance c)

end Position

theorem Lexer.tokensFrom_down (n : Nat) {pos : Position} {cs : List Char} {tokens : List Token}
    (h : tokensFrom pos cs = .ok tokens) :
    tokensFrom (pos.down n) cs = .ok (tokens.map (Token.move (Position.down n))) := by
  fun_induction tokensFrom pos cs generalizing tokens with
  | case1 =>
    rename_i hskip
    cases h
    rw [tokensFrom_done hskip, Position.after_down]
    rfl
  | case2 => cases h
  | case3 => cases h
  | case4 =>
    rename_i hskip l hlexeme ts hts ih
    cases h
    have hrest := ih hts
    rw [← Position.after_down, ← Position.after_down] at hrest
    rw [tokensFrom_step hskip hlexeme hrest, Position.after_down]
    rfl

end RuleGraph
