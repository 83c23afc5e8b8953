import RuleGraph.Proofs.Rules.Grammar
import RuleGraph.Rules.SyntaxError

/-!
# Prefixes of rule texts

The grammar of rule files does not nest, so that its sentences can be followed token by token with
finitely many states. The states that the tokens of a derivation lead through end in `done`, and
from every state there is a way to that end.
-/
namespace RuleGraph

/-- Whether a token is one of those that a name in an error stands for. -/
def Expected.admits : Expected → Token.Kind → Bool
  | .ruleName, .name _ | .producerName, .name _ | .filter, .name _ | .filterName, .name _
  | .parameterName, .name _ => true
  | .string, .text _ => true
  | .number, .number _ => true
  | .mark m, kind => kind = m
  | _, _ => false

namespace Grammar

/-- A list of tokens that some sentence of the grammar begins with. -/
def Viable (before : List Token) : Prop := ∃ d : File, before <+: d.tokens

theorem Viable.of_prefix {before front : List Token} (h : Viable before)
    (hfront : front <+: before) : Viable front := by
  obtain ⟨d, hd⟩ := h
  exact ⟨d, hfront.trans hd⟩

/-- What parameters are given to; it says how they end. -/
inductive Receiver
  | filter
  | producer (bracketed : Bool)
  deriving DecidableEq, Repr

/-- How far a rule text has come. -/
inductive State
  /-- In front of a rule, or of the end of the file. -/
  | rule
  /-- Behind the name of a rule. -/
  | named
  /-- Behind the arrow of a rule. -/
  | body
  /-- Behind the mark or the word that announces a producer. -/
  | announced (bracketed : Bool)
  /-- Behind the name of a producer. -/
  | produced (bracketed : Bool)
  /-- In front of a node, where no producer may stand. -/
  | node
  /-- Behind the mark of a negated filter. -/
  | negated
  /-- Behind the mark of a call. -/
  | call
  /-- Behind the name of a filter. -/
  | filter
  /-- Behind the parenthesis that a filter opens. -/
  | opened
  /-- In front of a parameter that has to come. -/
  | param (receiver : Receiver)
  /-- Behind the name of a parameter. -/
  | assigned (receiver : Receiver)
  /-- In front of the value of a parameter. -/
  | value (receiver : Receiver)
  /-- Behind a parameter. -/
  | given (receiver : Receiver)
  /-- Behind a link, or behind a producer that has been closed. -/
  | linked
  /-- Behind the end of the file. -/
  | done
  deriving DecidableEq, Repr

namespace State

/-- What may stand behind a link: the chain goes on, or the rule ends. -/
def afterLink : List (Expected × State) := [(.mark .pipe, .node), (.mark .semicolon, .rule)]

/-- What may stand behind everything that a receiver was given. -/
def close : Receiver → List (Expected × State)
  | .filter => [(.mark .rightParen, .linked)]
  | .producer true => [(.mark .greater, .linked)]
  | .producer false => afterLink

/-- What may stand behind a state, each with the state that it leads to. -/
def next : State → List (Expected × State)
  | .rule => [(.ruleName, .named), (.mark .endOfFile, .done)]
  | .named => [(.mark .arrow, .body)]
  | .body => [(.mark .less, .announced true), (.mark .fromWord, .announced false),
      (.filter, .filter), (.mark .bang, .negated), (.mark .atSign, .call)]
  | .announced b => [(.producerName, .produced b)]
  | .produced b => (.mark .colon, .param (.producer b)) :: close (.producer b)
  | .node => [(.filterName, .filter), (.mark .bang, .negated), (.mark .atSign, .call)]
  | .negated => [(.filterName, .filter)]
  | .call => [(.ruleName, .linked)]
  | .filter => [(.mark .leftParen, .opened)]
  | .opened => (.parameterName, .assigned .filter) :: close .filter
  | .param r => [(.parameterName, .assigned r)]
  | .assigned r => [(.mark .equals, .value r)]
  | .value r => [(.string, .given r), (.number, .given r)]
  | .given r => (.mark .comma, .param r) :: close r
  | .linked => afterLink
  | .done => []

/-- The state that a token leads to by a list of what may stand there. -/
def lead (next : List (Expected × State)) (kind : Token.Kind) : Option State :=
  (next.find? fun p => p.1.admits kind).map Prod.snd

/-- The state behind one more token, if the token may stand there. -/
def step (s : State) (kind : Token.Kind) : Option State := lead s.next kind

/-- The state behind a list of tokens. -/
def run : State → List Token → Option State
  | s, [] => some s
  | s, t :: ts => (s.step t.kind).bind fun s' => run s' ts

variable {s s' : State} {ts us : List Token}

@[simp] theorem run_nil (s : State) : s.run [] = some s := rfl

@[simp] theorem run_cons (s : State) (t : Token) (ts : List Token) :
    s.run (t :: ts) = (s.step t.kind).bind fun s' => s'.run ts := rfl

theorem run_append (s : State) (ts us : List Token) :
    s.run (ts ++ us) = (s.run ts).bind fun s' => s'.run us := by
  induction ts generalizing s with
  | nil => rfl
  | cons t ts ih => simp only [List.cons_append, run_cons, Option.bind_assoc, ih]

theorem run_append_of_eq (h : s.run ts = some s') (us : List Token) :
    s.run (ts ++ us) = s'.run us := by
  rw [run_append, h, Option.bind_some]

theorem run_cons_of_eq {t : Token} (h : s.step t.kind = some s') (ts : List Token) :
    s.run (t :: ts) = s'.run ts := by
  rw [run_cons, h, Option.bind_some]

theorem step_endOfFile (h : s.step .endOfFile = some s') : s' = .done := by
  cases s with
  | produced b => cases b <;> cases h
  | given r =>
    cases r with
    | filter => cases h
    | producer b => cases b <;> cases h
  | rule => exact (Option.some.inj h).symm
  | _ => cases h

theorem run_done (h : done.run ts = some s) : ts = [] := by
  cases ts with
  | nil => rfl
  | cons t ts => cases h

/-! ### The way of a derivation -/

/-- A parameter is read alike wherever its name may stand. -/
theorem run_param {r : Receiver} {p : Param} (h : s.step p.name.token.kind = some (.assigned r)) :
    s.run p.tokens = some (.given r) := by
  rw [Param.tokens, run_cons_of_eq h]
  cases p.value <;> rfl

theorem run_more (r : Receiver) (ps : List (Position × Param)) :
    (given r).run (ps.flatMap (behind .comma Param.tokens)) = some (.given r) := by
  induction ps with
  | nil => rfl
  | cons p ps ih =>
    have hparam : (param r).run p.2.tokens = some (.given r) := run_param rfl
    have hcomma : (given r).step .comma = some (.param r) := rfl
    rw [List.flatMap_cons, behind, List.cons_append, run_cons_of_eq hcomma,
      run_append_of_eq hparam, ih]

theorem run_params {r : Receiver} {ps : Params}
    (h : s.step ps.first.name.token.kind = some (.assigned r)) :
    s.run ps.tokens = some (.given r) := by
  rw [Params.tokens, run_append_of_eq (run_param h), run_more]

theorem run_arguments (ps : Option Params) (closing : Position) :
    opened.run (tokens? Params.tokens ps ++ [⟨.rightParen, closing⟩]) = some .linked := by
  cases ps with
  | none => rfl
  | some ps => rw [tokens?, run_append_of_eq (run_params rfl)]; rfl

/-- A link is read alike behind an arrow and behind a bar. -/
theorem run_link (l : Link) (h : s = .body ∨ s = .node) : s.run l.tokens = some .linked := by
  cases l with
  | call atSign rule => obtain rfl | rfl := h <;> rfl
  | filter bang name opening params closing =>
    have hfilter : filter.run (⟨.leftParen, opening⟩ ::
        (tokens? Params.tokens params ++ [⟨.rightParen, closing⟩])) = some .linked :=
      run_arguments params closing
    cases bang <;> obtain rfl | rfl := h <;> exact hfilter

theorem run_node (n : Node) (h : s = .body ∨ s = .node) : s.run n.tokens = some .linked := by
  induction n generalizing s with
  | last link => exact run_link link h
  | pipe link bar next ih =>
    rw [Node.tokens, run_append_of_eq (run_link link h)]
    exact ih (.inr rfl)

/-- Where a producer's parameters end. -/
def configured (bracketed : Bool) (ps : Option (Position × Params)) : State :=
  if ps.isSome then .given (.producer bracketed) else .produced bracketed

theorem run_configured (b : Bool) (ps : Option (Position × Params)) :
    (produced b).run (tokens? (behind .colon Params.tokens) ps) = some (configured b ps) := by
  cases ps with
  | none => rfl
  | some ps =>
    have hparams : (param (.producer b)).run ps.2.tokens = some (.given (.producer b)) :=
      run_params rfl
    exact hparams

/-- The states in which a chain may go on and the rule may end. -/
structure MayEnd (s : State) : Prop where
  pipe : s.step .pipe = some .node
  semicolon : s.step .semicolon = some .rule

theorem mayEnd_linked : MayEnd .linked := ⟨rfl, rfl⟩

theorem mayEnd_configured (ps : Option (Position × Params)) : MayEnd (configured false ps) := by
  cases ps <;> exact ⟨rfl, rfl⟩

theorem step_configured_greater (ps : Option (Position × Params)) :
    (configured true ps).step .greater = some .linked := by
  cases ps <;> rfl

/-- Where a chain that may follow ends. -/
def continued (s : State) (n : Option (Position × Node)) : State :=
  if n.isSome then .linked else s

theorem run_continuation (h : MayEnd s) (n : Option (Position × Node)) :
    s.run (tokens? (behind .pipe Node.tokens) n) = some (continued s n) := by
  cases n with
  | none => rfl
  | some n =>
    rw [tokens?, behind, run_cons_of_eq h.pipe, run_node n.2 (.inr rfl)]
    rfl

theorem MayEnd.continued (h : MayEnd s) (n : Option (Position × Node)) :
    MayEnd (continued s n) := by
  cases n with
  | none => exact h
  | some n => exact mayEnd_linked

/-- The state behind the body of a rule. -/
def bodyEnd : Body → State
  | .producer (.bracketed _ _ _ _ next) => continued .linked next
  | .producer (.worded _ _ params next) => continued (configured false params) next
  | .node _ => .linked

theorem run_body (b : Body) : body.run b.tokens = some (bodyEnd b) := by
  cases b with
  | node n => exact run_node n (.inl rfl)
  | producer p =>
    cases p with
    | bracketed opening name params closing next =>
      have hparams : (produced true).run (tokens? (behind .colon Params.tokens) params ++
          ⟨.greater, closing⟩ :: tokens? (behind .pipe Node.tokens) next) =
            some (continued .linked next) := by
        rw [run_append_of_eq (run_configured true params),
          run_cons_of_eq (step_configured_greater params), run_continuation mayEnd_linked]
      exact hparams
    | worded fromWord name params next =>
      have hparams : (produced false).run (tokens? (behind .colon Params.tokens) params ++
          tokens? (behind .pipe Node.tokens) next) =
            some (continued (configured false params) next) := by
        rw [run_append_of_eq (run_configured false params),
          run_continuation (mayEnd_configured params)]
      exact hparams

theorem mayEnd_bodyEnd (b : Body) : MayEnd (bodyEnd b) := by
  cases b with
  | node n => exact mayEnd_linked
  | producer p =>
    cases p with
    | bracketed _ _ _ _ next => exact mayEnd_linked.continued next
    | worded _ _ params next => exact (mayEnd_configured params).continued next

theorem run_rule (r : Rule) : rule.run r.tokens = some .rule := by
  have hbody : body.run (r.body.tokens ++ [⟨.semicolon, r.semicolon⟩]) = some .rule := by
    rw [run_append_of_eq (run_body r.body), run_cons_of_eq (mayEnd_bodyEnd r.body).semicolon]
    rfl
  exact hbody

theorem run_rules (rs : List Rule) : rule.run (rs.flatMap Rule.tokens) = some .rule := by
  induction rs with
  | nil => rfl
  | cons r rs ih => rw [List.flatMap_cons, run_append_of_eq (run_rule r), ih]

/-- The tokens of a derivation lead from the first rule to the end of the file. -/
theorem run_file (d : File) : rule.run d.tokens = some .done := by
  rw [File.tokens, run_append_of_eq (run_rules d.rules)]
  rfl

theorem exists_run_of_viable (h : Viable ts) : ∃ s, rule.run ts = some s := by
  obtain ⟨d, us, hd⟩ := h
  have hrun := run_file d
  rw [← hd, run_append] at hrun
  obtain ⟨s, hs, -⟩ := Option.bind_eq_some_iff.mp hrun
  exact ⟨s, hs⟩

/-! ### The way to the end -/

/-- The tokens that close what a receiver was given, and everything around it. -/
def closing : Receiver → List Token.Kind
  | .filter => [.rightParen, .semicolon, .endOfFile]
  | .producer true => [.greater, .semicolon, .endOfFile]
  | .producer false => [.semicolon, .endOfFile]

/-- The tokens on a way from a state to the end of the file. -/
def ending : State → List Token.Kind
  | .rule => [.endOfFile]
  | .named => [.arrow, .atSign, .name "", .semicolon, .endOfFile]
  | .body | .node => [.atSign, .name "", .semicolon, .endOfFile]
  | .announced b => .name "" :: closing (.producer b)
  | .produced b => closing (.producer b)
  | .negated => .name "" :: .leftParen :: closing .filter
  | .call => [.name "", .semicolon, .endOfFile]
  | .filter => .leftParen :: closing .filter
  | .opened => closing .filter
  | .param r => .name "" :: .equals :: .text "" :: closing r
  | .assigned r => .equals :: .text "" :: closing r
  | .value r => .text "" :: closing r
  | .given r => closing r
  | .linked => [.semicolon, .endOfFile]
  | .done => []

theorem exists_run_done (s : State) : ∃ ts, s.run ts = some .done := by
  refine ⟨s.ending.map fun kind => ⟨kind, Position.start⟩, ?_⟩
  have hgiven (r : Receiver) :
      (given r).run ((closing r).map fun kind => ⟨kind, Position.start⟩) = some .done := by
    cases r with
    | filter => rfl
    | producer b => cases b <;> rfl
  cases s with
  | announced b => cases b <;> rfl
  | produced b => cases b <;> rfl
  | param r => exact hgiven r
  | assigned r => exact hgiven r
  | value r => exact hgiven r
  | given r => exact hgiven r
  | _ => rfl

end State
end Grammar
end RuleGraph
