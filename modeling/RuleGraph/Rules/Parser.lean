import RuleGraph.Rules.File
import RuleGraph.Rules.Import
import RuleGraph.Rules.Lexer

/-!
# Rules of a token list

Each production takes a list of tokens and gives what it read with the tokens it left, which are
fewer. An error stands at the first token that no rule text could continue with, and lists what
could have stood there.
-/
namespace RuleGraph.Parser

/-- The complaint about the next token; a token list ends with the end of the file. -/
def unexpected {α : Type} (expected : List Expected) : List Token → Except SyntaxError α
  | [] => .error ⟨Position.start, .unexpectedToken .endOfFile, expected⟩
  | t :: _ => .error ⟨t.pos, .unexpectedToken t.kind, expected⟩

def name (label : Expected) : List Token → Except SyntaxError ((String × Position) × List Token)
  | ⟨.name s, pos⟩ :: rest => .ok ((s, pos), rest)
  | tokens => unexpected [label] tokens

/-- A given token, which is all that may stand here. -/
def mark (kind : Token.Kind) (expected : List Expected) :
    List Token → Except SyntaxError (List Token)
  | [] => unexpected expected []
  | t :: rest => if t.kind = kind then .ok rest else unexpected expected (t :: rest)

/-- The tokens behind an optional mark, if it is there. -/
def mark? (kind : Token.Kind) : List Token → Option (List Token)
  | [] => none
  | t :: rest => if t.kind = kind then some rest else none

def value : List Token → Except SyntaxError (ParamValue × List Token)
  | ⟨.text s, _⟩ :: rest => .ok (.text s, rest)
  | ⟨.number x, _⟩ :: rest => .ok (.number x, rest)
  | tokens => unexpected [.string, .number] tokens

def param (tokens : List Token) : Except SyntaxError (Param × List Token) := do
  let ((n, _), tokens) ← name .parameterName tokens
  let tokens ← mark .equals [.mark .equals] tokens
  let (v, tokens) ← value tokens
  return (⟨n, v⟩, tokens)

theorem name_lt {label : Expected} {ts rest : List Token} {a : String × Position}
    (h : name label ts = .ok (a, rest)) : rest.length < ts.length := by
  unfold name at h
  split at h
  · cases h; simp
  · unfold unexpected at h; split at h <;> cases h

theorem mark_lt {kind : Token.Kind} {expected : List Expected} {ts rest : List Token}
    (h : mark kind expected ts = .ok rest) : rest.length < ts.length := by
  unfold mark at h
  split at h
  · cases h
  · split at h
    · cases h; simp
    · cases h

theorem mark?_lt {kind : Token.Kind} {ts rest : List Token}
    (h : mark? kind ts = some rest) : rest.length < ts.length := by
  unfold mark? at h
  split at h
  · cases h
  · split at h
    · cases h; simp
    · cases h

theorem value_lt {ts rest : List Token} {v : ParamValue} (h : value ts = .ok (v, rest)) :
    rest.length < ts.length := by
  unfold value at h
  split at h
  · cases h; simp
  · cases h; simp
  · unfold unexpected at h; split at h <;> cases h

theorem bind_eq_ok {α β : Type} {x : Except SyntaxError α} {f : α → Except SyntaxError β} {b : β}
    (h : (x >>= f) = .ok b) : ∃ a, x = .ok a ∧ f a = .ok b := by
  cases x with
  | error e => cases h
  | ok a => exact ⟨a, rfl, h⟩

theorem param_lt {ts rest : List Token} {p : Param} (h : param ts = .ok (p, rest)) :
    rest.length < ts.length := by
  obtain ⟨⟨⟨n, pos⟩, ts1⟩, h1, h⟩ := bind_eq_ok h
  obtain ⟨ts2, h2, h⟩ := bind_eq_ok h
  obtain ⟨⟨v, ts3⟩, h3, h⟩ := bind_eq_ok h
  cases h
  have := name_lt h1
  have := mark_lt h2
  have := value_lt h3
  omega

/-- Parameters separated by commas, at least one. -/
def params (tokens : List Token) : Except SyntaxError (List Param × List Token) :=
  match _hp : param tokens with
  | .error e => .error e
  | .ok (p, rest) =>
    match _hc : mark? .comma rest with
    | none => .ok ([p], rest)
    | some rest' =>
      match params rest' with
      | .error e => .error e
      | .ok (ps, rest'') => .ok (p :: ps, rest'')
termination_by tokens.length
decreasing_by
  have := param_lt _hp
  have := mark?_lt _hc
  omega

theorem params_lt {ts rest : List Token} {ps : List Param} (h : params ts = .ok (ps, rest)) :
    rest.length < ts.length := by
  fun_induction params ts generalizing ps rest with
  | case1 => cases h
  | case2 ts p r hp =>
    cases h
    exact param_lt hp
  | case3 => cases h
  | case4 ts p r hp r' hc ps' r'' hr ih =>
    cases h
    have := param_lt hp
    have := mark?_lt hc
    have := ih hr
    omega

/-- Parameters in front of a closing parenthesis, or none. -/
def paramsToParen (tokens : List Token) : Except SyntaxError (List Param × List Token) :=
  match mark? .rightParen tokens with
  | some _ => .ok ([], tokens)
  | none => params tokens

/-- The parameters between parentheses; the opening one is read already. -/
def arguments (tokens : List Token) : Except SyntaxError (List Param × List Token) := do
  let (ps, tokens) ← paramsToParen tokens
  let tokens ← mark .rightParen [.mark .comma, .mark .rightParen] tokens
  return (ps, tokens)

def filter (negated : Bool) (tokens : List Token) : Except SyntaxError (Link × List Token) :=
  match tokens with
  | ⟨.name n, _⟩ :: tokens => do
    let tokens ← mark .leftParen [.mark .leftParen] tokens
    let (ps, tokens) ← arguments tokens
    return (.filter n ps negated, tokens)
  | tokens =>
    unexpected (if negated then [.filterName] else [.filterName, .mark .bang, .mark .atSign]) tokens

def link (tokens : List Token) : Except SyntaxError (Link × List Token) :=
  match mark? .atSign tokens with
  | some tokens => do
    let ((n, _), tokens) ← name .ruleName tokens
    return (.call n, tokens)
  | none =>
    match mark? .bang tokens with
    | some tokens => filter true tokens
    | none => filter false tokens

theorem arguments_lt {ts rest : List Token} {ps : List Param}
    (h : arguments ts = .ok (ps, rest)) : rest.length < ts.length := by
  obtain ⟨⟨qs, ts1⟩, h1, h⟩ := bind_eq_ok h
  obtain ⟨ts2, h2, h⟩ := bind_eq_ok h
  cases h
  have hm := mark_lt h2
  unfold paramsToParen at h1
  split at h1
  · cases h1; exact hm
  · have := params_lt h1; omega

theorem filter_lt {negated : Bool} {ts rest : List Token} {l : Link}
    (h : filter negated ts = .ok (l, rest)) : rest.length < ts.length := by
  unfold filter at h
  split at h
  · obtain ⟨ts1, h1, h⟩ := bind_eq_ok h
    obtain ⟨⟨ps, ts2⟩, h2, h⟩ := bind_eq_ok h
    cases h
    have := mark_lt h1
    have := arguments_lt h2
    simp only [List.length_cons]
    omega
  · unfold unexpected at h; split at h <;> cases h

theorem link_lt {ts rest : List Token} {l : Link} (h : link ts = .ok (l, rest)) :
    rest.length < ts.length := by
  unfold link at h
  split at h
  · rename_i hm
    obtain ⟨⟨⟨n, pos⟩, ts1⟩, h1, h⟩ := bind_eq_ok h
    cases h
    have := mark?_lt hm
    have := name_lt h1
    omega
  · split at h
    · rename_i hm
      have := mark?_lt hm
      have := filter_lt h
      omega
    · exact filter_lt h

/-- Links separated by bars, at least one. -/
def chain (tokens : List Token) : Except SyntaxError ((Link × List Link) × List Token) :=
  match _hl : link tokens with
  | .error e => .error e
  | .ok (l, rest) =>
    match _hb : mark? .pipe rest with
    | none => .ok ((l, []), rest)
    | some rest' =>
      match chain rest' with
      | .error e => .error e
      | .ok ((l', ls), rest'') => .ok ((l, l' :: ls), rest'')
termination_by tokens.length
decreasing_by
  have := link_lt _hl
  have := mark?_lt _hb
  omega

theorem chain_lt {ts rest : List Token} {c : Link × List Link} (h : chain ts = .ok (c, rest)) :
    rest.length < ts.length := by
  fun_induction chain ts generalizing c rest with
  | case1 => cases h
  | case2 ts l r hl =>
    cases h
    exact link_lt hl
  | case3 => cases h
  | case4 ts l r hl r' hb l' ls r'' hr ih =>
    cases h
    have := link_lt hl
    have := mark?_lt hb
    have := ih hr
    omega

/-- Parameters behind a colon, or none. -/
def paramsBehindColon (tokens : List Token) : Except SyntaxError (List Param × List Token) :=
  match mark? .colon tokens with
  | some tokens => params tokens
  | none => .ok ([], tokens)

/-- The bracket that closes a producer which was opened with one. -/
def closing (bracketed : Bool) (tokens : List Token) : Except SyntaxError (List Token) :=
  if bracketed then mark .greater [.mark .colon, .mark .comma, .mark .greater] tokens
  else .ok tokens

/-- The chain behind a bar, or none. -/
def continuation (tokens : List Token) : Except SyntaxError (List Link × List Token) :=
  match mark? .pipe tokens with
  | some tokens =>
    match chain tokens with
    | .ok ((l, ls), tokens) => .ok (l :: ls, tokens)
    | .error e => .error e
  | none => .ok ([], tokens)

/-- A producer and the chain behind it. The form in angle brackets has to be closed. -/
def producer (bracketed : Bool) (tokens : List Token) :
    Except SyntaxError (RuleBody × List Token) := do
  let ((n, _), tokens) ← name .producerName tokens
  let (ps, tokens) ← paramsBehindColon tokens
  let tokens ← closing bracketed tokens
  let (links, tokens) ← continuation tokens
  return (.produced ⟨n, ps⟩ links, tokens)

def body (tokens : List Token) : Except SyntaxError (RuleBody × List Token) :=
  match tokens with
  | ⟨.less, _⟩ :: tokens => producer true tokens
  | ⟨.fromWord, _⟩ :: tokens => producer false tokens
  | ⟨.name _, _⟩ :: _ | ⟨.bang, _⟩ :: _ | ⟨.atSign, _⟩ :: _ => do
    let ((l, ls), tokens) ← chain tokens
    return (.fragment l ls, tokens)
  | tokens =>
    unexpected [.mark .less, .mark .fromWord, .filter, .mark .bang, .mark .atSign] tokens

def rule (tokens : List Token) : Except SyntaxError (Rule × List Token) := do
  let ((n, pos), tokens) ← name .ruleName tokens
  let tokens ← mark .arrow [.mark .arrow] tokens
  let (b, tokens) ← body tokens
  let tokens ← mark .semicolon [.mark .pipe, .mark .semicolon] tokens
  return (⟨n, pos, b⟩, tokens)

theorem paramsBehindColon_le {ts rest : List Token} {ps : List Param}
    (h : paramsBehindColon ts = .ok (ps, rest)) : rest.length ≤ ts.length := by
  unfold paramsBehindColon at h
  split at h
  · rename_i hm
    have := mark?_lt hm
    have := params_lt h
    omega
  · cases h; omega

theorem closing_le {bracketed : Bool} {ts rest : List Token}
    (h : closing bracketed ts = .ok rest) : rest.length ≤ ts.length := by
  unfold closing at h
  split at h
  · have := mark_lt h; omega
  · cases h; omega

theorem continuation_le {ts rest : List Token} {ls : List Link}
    (h : continuation ts = .ok (ls, rest)) : rest.length ≤ ts.length := by
  unfold continuation at h
  split at h
  · rename_i hm
    split at h
    · rename_i hc
      cases h
      have := mark?_lt hm
      have := chain_lt hc
      omega
    · cases h
  · cases h; omega

theorem producer_lt {bracketed : Bool} {ts rest : List Token} {b : RuleBody}
    (h : producer bracketed ts = .ok (b, rest)) : rest.length < ts.length := by
  obtain ⟨⟨⟨n, pos⟩, ts1⟩, h1, h⟩ := bind_eq_ok h
  obtain ⟨⟨ps, ts2⟩, h2, h⟩ := bind_eq_ok h
  obtain ⟨ts3, h3, h⟩ := bind_eq_ok h
  obtain ⟨⟨ls, ts4⟩, h4, h⟩ := bind_eq_ok h
  cases h
  have := name_lt h1
  have := paramsBehindColon_le h2
  have := closing_le h3
  have := continuation_le h4
  omega

theorem body_lt {ts rest : List Token} {b : RuleBody} (h : body ts = .ok (b, rest)) :
    rest.length < ts.length := by
  unfold body at h
  split at h
  · have := producer_lt h; simp only [List.length_cons]; omega
  · have := producer_lt h; simp only [List.length_cons]; omega
  · obtain ⟨⟨c, ts1⟩, h1, h⟩ := bind_eq_ok h
    cases h
    exact chain_lt h1
  · obtain ⟨⟨c, ts1⟩, h1, h⟩ := bind_eq_ok h
    cases h
    exact chain_lt h1
  · obtain ⟨⟨c, ts1⟩, h1, h⟩ := bind_eq_ok h
    cases h
    exact chain_lt h1
  · unfold unexpected at h; split at h <;> cases h

theorem rule_lt {ts rest : List Token} {r : Rule} (h : rule ts = .ok (r, rest)) :
    rest.length < ts.length := by
  obtain ⟨⟨⟨n, pos⟩, ts1⟩, h1, h⟩ := bind_eq_ok h
  obtain ⟨ts2, h2, h⟩ := bind_eq_ok h
  obtain ⟨⟨b, ts3⟩, h3, h⟩ := bind_eq_ok h
  obtain ⟨ts4, h4, h⟩ := bind_eq_ok h
  cases h
  have := name_lt h1
  have := mark_lt h2
  have := body_lt h3
  have := mark_lt h4
  omega

/-- Rules up to the end of the file. -/
def file (tokens : List Token) : Except SyntaxError (List Rule) :=
  match mark? .endOfFile tokens with
  | some _ => .ok []
  | none =>
    match _hr : rule tokens with
    | .error e => .error e
    | .ok (r, rest) =>
      match file rest with
      | .error e => .error e
      | .ok rs => .ok (r :: rs)
termination_by tokens.length
decreasing_by exact rule_lt _hr

end RuleGraph.Parser

namespace RuleGraph

/-- The rule file that a text makes up when it is read under a path. Import lines are read first,
then the tokens, then the rules; the first fault found counts. -/
def RuleFile.parse (path : Path) (source : String) : Except SyntaxError RuleFile := do
  let targets ← Import.scan source
  let tokens ← tokenize source
  let rules ← Parser.file tokens
  return ⟨path, targets.map (Import.resolve path), rules⟩

end RuleGraph
