import Mathlib
import RuleGraph.Proofs.Rules.FirstFault

/-!
# What an error of the grammar names

An error names what could stand in the place of the wrong token, and has one list of names for
several states of the text. So the names are not always those that the grammar allows there: they
leave out the end of the file in front of a rule, the parenthesis that closes an empty list of
parameters, and what goes on with a producer that has no brackets; for a producer in brackets they
are a colon and a comma, of which only one may stand there.
-/
namespace RuleGraph

namespace Grammar.State

variable {s s' : State} {x : Expected} {kind : Token.Kind} {before : List Token}

theorem isSome_step_iff : (s.step kind).isSome ↔ ∃ x ∈ s.next.map Prod.fst, x.admits kind := by
  simp [step, lead]

theorem exists_of_step (h : s.step kind = some s') : ∃ x, (x, s') ∈ s.next ∧ x.admits kind := by
  obtain ⟨⟨x, s''⟩, hfind, hs⟩ := Option.map_eq_some_iff.mp h
  cases hs
  exact ⟨x, List.mem_of_find?_eq_some hfind,
    List.find?_some (p := fun p : Expected × State => p.1.admits kind) hfind⟩

/-- What stands in front of a state. -/
def entered : State → List Expected
  | .rule => [.mark .semicolon]
  | .named => [.ruleName]
  | .body => [.mark .arrow]
  | .announced b => [.mark (if b then .less else .fromWord)]
  | .produced _ => [.producerName]
  | .node => [.mark .pipe]
  | .negated => [.mark .bang]
  | .call => [.mark .atSign]
  | .filter => [.filter, .filterName]
  | .opened => [.mark .leftParen]
  | .param _ => [.mark .comma, .mark .colon]
  | .assigned _ => [.parameterName]
  | .value _ => [.mark .equals]
  | .given _ => [.string, .number]
  | .linked => [.mark .rightParen, .mark .greater, .ruleName]
  | .done => [.mark .endOfFile]

theorem mem_entered_of_close (r : Receiver) : ∀ p ∈ close r, p.1 ∈ p.2.entered := by
  cases r with
  | filter => simp [close, entered]
  | producer b => cases b <;> simp [close, afterLink, entered]

theorem mem_entered (s : State) : ∀ p ∈ s.next, p.1 ∈ p.2.entered := by
  cases s with
  | produced b => exact List.forall_mem_cons.mpr ⟨by simp [entered], mem_entered_of_close _⟩
  | opened => exact List.forall_mem_cons.mpr ⟨by simp [entered], mem_entered_of_close _⟩
  | given r => exact List.forall_mem_cons.mpr ⟨by simp [entered], mem_entered_of_close _⟩
  | _ => simp [next, afterLink, entered]

theorem exists_entered_of_step (h : s.step kind = some s') : ∃ x ∈ s'.entered, x.admits kind := by
  obtain ⟨x, hx, hkind⟩ := exists_of_step h
  exact ⟨x, mem_entered s (x, s') hx, hkind⟩

/-- The name of a producer stands behind its announcement. -/
theorem step_eq_produced {b : Bool} (h : s.step kind = some (.produced b)) : s = .announced b := by
  obtain ⟨x, hx, -⟩ := exists_of_step h
  cases s with
  | announced b' => simp_all [next]
  | produced b' => cases b' <;> simp [next, close, afterLink] at hx
  | given r =>
    cases r with
    | filter => simp [next, close] at hx
    | producer b' => cases b' <;> simp [next, close, afterLink] at hx
  | _ => simp [next, close, afterLink] at hx

/-- The kinds of the tokens, the last one first. -/
def latest (ts : List Token) : List Token.Kind := (ts.map Token.kind).reverse

@[simp] theorem latest_concat (ts : List Token) (t : Token) :
    latest (ts ++ [t]) = t.kind :: latest ts := by simp [latest]

/-- The last step to a state. -/
theorem run_cases (h : rule.run before = some s) : before = [] ∧ s = .rule ∨
    ∃ front t s', before = front ++ [t] ∧ rule.run front = some s' ∧ s'.step t.kind = some s := by
  induction before using List.reverseRecOn with
  | nil => exact .inl ⟨rfl, (Option.some.inj h).symm⟩
  | append_singleton front t =>
    rw [run_append] at h
    obtain ⟨s', hfront, hstep⟩ := Option.bind_eq_some_iff.mp h
    rw [run_cons] at hstep
    obtain ⟨s'', hstep, hs⟩ := Option.bind_eq_some_iff.mp hstep
    cases hs
    exact .inr ⟨front, t, s', rfl, hfront, hstep⟩

/-- Where a producer is announced. -/
theorem eq_announced_iff (h : rule.run before = some s) (b : Bool) :
    s = .announced b ↔ (latest before).head? = some (if b then .less else .fromWord) := by
  obtain ⟨rfl, rfl⟩ | ⟨front, t, s', rfl, -, hstep⟩ := run_cases h
  · simp [latest]
  · obtain ⟨x, hx, hkind⟩ := exists_entered_of_step hstep
    constructor
    · rintro rfl
      simp [entered] at hx
      subst hx
      simp [Expected.admits] at hkind
      simp [hkind]
    · intro hlast
      have hlast : t.kind = if b then .less else .fromWord := by simpa using hlast
      rw [hlast] at hkind
      have hmark : x = .mark (if b then .less else .fromWord) := by
        cases b <;> cases x <;> simp_all [Expected.admits]
      rw [hmark] at hx
      -- what announces a producer stands in front of no other state
      cases s with
      | announced b' => cases b <;> cases b' <;> simp_all [entered]
      | _ => cases b <;> simp [entered] at hx

end Grammar.State

namespace Parser

open Grammar (State Viable)
open Grammar.State (latest latest_concat run_cases exists_entered_of_step step_eq_produced
  eq_announced_iff)

variable {s : State} {before : List Token} {e : SyntaxError}

/-- What could stand there too, where an error has the names `names`; the kinds of the tokens in
front are given from the last one back. -/
def unnamed : List Expected → List Token.Kind → List Expected
  | [.ruleName], [] | [.ruleName], .semicolon :: _ => [.mark .endOfFile]
  | [.parameterName], .leftParen :: _ => [.mark .rightParen]
  | [.mark .pipe, .mark .semicolon], .name _ :: .fromWord :: _ => [.mark .colon]
  | [.mark .pipe, .mark .semicolon], .text _ :: _
  | [.mark .pipe, .mark .semicolon], .number _ :: _ => [.mark .comma]
  | _, _ => []

/-- The names of an error that cannot stand there. -/
def misnamed : List Expected → List Token.Kind → List Expected
  | [.mark .colon, .mark .comma, .mark .greater], .name _ :: _ => [.mark .comma]
  | [.mark .colon, .mark .comma, .mark .greater], .text _ :: _
  | [.mark .colon, .mark .comma, .mark .greater], .number _ :: _ => [.mark .colon]
  | _, _ => []

theorem exists_name {x : Expected} {kind : Token.Kind} (h : x.admits kind)
    (hx : x = .ruleName ∨ x = .producerName) : ∃ n, kind = .name n := by
  obtain rfl | rfl := hx <;> cases kind <;> simp_all [Expected.admits]

theorem exists_value {x : Expected} {kind : Token.Kind} (h : x.admits kind)
    (hx : x = .string ∨ x = .number) : (∃ s, kind = .text s) ∨ ∃ v, kind = .number v := by
  obtain rfl | rfl := hx <;> cases kind <;> simp_all [Expected.admits]

theorem eq_of_admits_mark {m kind : Token.Kind} (h : (Expected.mark m).admits kind) : kind = m := by
  simpa [Expected.admits] using h

/-- A name that is not the name of a producer without brackets lets nothing more follow. -/
theorem unnamed_name {n : String} {kinds : List Token.Kind} (h : kinds.head? ≠ some .fromWord) :
    unnamed [.mark .pipe, .mark .semicolon] (.name n :: kinds) = [] := by
  cases kinds with
  | nil => rfl
  | cons kind kinds =>
    cases kind with
    | fromWord => exact absurd rfl h
    | _ => rfl

/-- What may follow a state is what an error names there, but for what is told from the tokens in
front of it. -/
theorem mem_next_iff (h : State.rule.run before = some s) (x : Expected) :
    x ∈ s.next.map Prod.fst ↔ x ∈ named s ∧ x ∉ misnamed (named s) (latest before) ∨
      x ∈ unnamed (named s) (latest before) := by
  obtain ⟨rfl, rfl⟩ | ⟨front, t, s', rfl, hfront, hstep⟩ := run_cases h
  · simp [named, State.next, latest, unnamed, misnamed]
  obtain ⟨y, hy, hkind⟩ := exists_entered_of_step hstep
  obtain ⟨kind, pos⟩ := t
  rw [latest_concat]
  cases s with
  | rule =>
    obtain rfl : y = _ := List.mem_singleton.mp hy
    obtain rfl := eq_of_admits_mark hkind
    simp [named, State.next, unnamed, misnamed]
  | opened =>
    obtain rfl : y = _ := List.mem_singleton.mp hy
    obtain rfl := eq_of_admits_mark hkind
    simp [named, State.next, State.close, unnamed, misnamed]
  | call =>
    obtain rfl : y = _ := List.mem_singleton.mp hy
    obtain rfl := eq_of_admits_mark hkind
    simp [named, State.next, unnamed, misnamed]
  | param r =>
    obtain rfl | rfl : y = .mark .comma ∨ y = .mark .colon := by simpa [State.entered] using hy
    all_goals
      obtain rfl := eq_of_admits_mark hkind
      simp [named, State.next, unnamed, misnamed]
  | produced b =>
    obtain rfl : y = _ := List.mem_singleton.mp hy
    obtain ⟨n, rfl⟩ := exists_name hkind (.inr rfl)
    obtain rfl := step_eq_produced hstep
    have hlast := (eq_announced_iff hfront b).mp rfl
    obtain ⟨kinds, hkinds⟩ := List.head?_eq_some_iff.mp hlast
    rw [hkinds]
    cases b
    · simp [named, State.next, State.close, State.afterLink, unnamed, misnamed]
      tauto
    · simp [named, State.next, State.close, unnamed, misnamed]
      grind
  | given r =>
    have hy : y = .string ∨ y = .number := by simpa [State.entered] using hy
    obtain ⟨v, rfl⟩ | ⟨v, rfl⟩ := exists_value hkind hy
    all_goals
      cases r with
      | filter => simp [named, State.next, State.close, unnamed, misnamed]
      | producer b =>
        cases b
        · simp [named, State.next, State.close, State.afterLink, unnamed, misnamed]
          tauto
        · simp [named, State.next, State.close, unnamed, misnamed]
          grind
  | linked =>
    have hy : y = .mark .rightParen ∨ y = .mark .greater ∨ y = .ruleName := by
      simpa [State.entered] using hy
    obtain rfl | rfl | rfl := hy
    · obtain rfl := eq_of_admits_mark hkind
      simp [named, State.next, State.afterLink, unnamed, misnamed]
    · obtain rfl := eq_of_admits_mark hkind
      simp [named, State.next, State.afterLink, unnamed, misnamed]
    · obtain ⟨n, rfl⟩ := exists_name hkind (.inl rfl)
      have hlast : (latest front).head? ≠ some .fromWord := fun hlast => by
        rw [(eq_announced_iff hfront false).mpr hlast] at hstep
        cases hstep
      simp [named, State.next, State.afterLink, unnamed_name hlast, misnamed]
  | _ => simp [named, State.next, unnamed, misnamed]

/-- An error names what could stand in the place of the wrong token, but for the names that are
told from the tokens in front of it. -/
theorem names_what_may_stand {source : String} {tokens : List Token}
    (htokens : tokenize source = .ok tokens) (h : file tokens = .error e) :
    ∃ before t behind, tokens = before ++ t :: behind ∧
      Viable before ∧ ¬Viable (before ++ [t]) ∧ e.pos = t.pos ∧
      ∀ kind, Viable (before ++ [⟨kind, t.pos⟩]) ↔ ∃ x : Expected, x.admits kind ∧
        (x ∈ e.expected ∧ x ∉ misnamed e.expected (latest before) ∨
          x ∈ unnamed e.expected (latest before)) := by
  obtain ⟨before, t, behind, s, rfl, hrun, hstep, rfl⟩ := (file_eq_error_iff htokens).mp h
  have hviable : Viable before := viable_iff.mpr ⟨s, hrun⟩
  have hnot : ¬Viable (before ++ [t]) := by simp [viable_concat_iff hrun, hstep]
  refine ⟨before, t, behind, rfl, hviable, hnot, rfl, fun kind => ?_⟩
  rw [viable_concat_iff hrun, State.isSome_step_iff]
  refine exists_congr fun x => ?_
  rw [mem_next_iff hrun, and_comm]

/-- The parenthesis that closes an empty list of parameters is not named. -/
theorem names_what_may_stand_parenthesis : ∃ tokens e, tokenize "a => f(,);" = .ok tokens ∧
    file tokens = .error e ∧ e.expected = [.parameterName] ∧
    ∃ before t behind, tokens = before ++ t :: behind ∧ e.pos = t.pos ∧
      Viable (before ++ [⟨.rightParen, t.pos⟩]) ∧ ¬Viable (before ++ [⟨.pipe, t.pos⟩]) := by
  let front : List Token := [⟨.name "a", ⟨1, 1⟩⟩, ⟨.arrow, ⟨1, 3⟩⟩, ⟨.name "f", ⟨1, 6⟩⟩,
    ⟨.leftParen, ⟨1, 7⟩⟩]
  have htokens : tokenize "a => f(,);" = .ok (front ++ ⟨.comma, ⟨1, 8⟩⟩ ::
      [⟨.rightParen, ⟨1, 9⟩⟩, ⟨.semicolon, ⟨1, 10⟩⟩, ⟨.endOfFile, ⟨1, 11⟩⟩]) := by cbv
  have hrun : State.rule.run front = some .opened := rfl
  have hfile := (file_eq_error_iff htokens).mpr ⟨front, _, _, _, rfl, hrun, rfl, rfl⟩
  obtain ⟨before, t, behind, hsplit, hviable, hnot, hpos, hnames⟩ :=
    names_what_may_stand htokens hfile
  obtain ⟨rfl, rfl⟩ := place_unique hsplit (viable_iff.mpr ⟨_, hrun⟩)
    ((viable_concat_iff hrun _).not.mpr (by decide)) hviable hnot
  refine ⟨_, _, htokens, hfile, rfl, front, _, _, rfl, rfl, (hnames _).mpr ?_,
    (hnames _).not.mpr ?_⟩
  · exact ⟨.mark .rightParen, rfl, .inr (List.mem_singleton.mpr rfl)⟩
  · rintro ⟨x, hx, ⟨hnamed, -⟩ | hunnamed⟩
    · cases List.mem_singleton.mp hnamed
      cases hx
    · cases List.mem_singleton.mp hunnamed
      cases hx

/-- An error may name a mark that cannot stand there, and leave out one that can. -/
theorem names_too_much_and_too_little :
    (∃ before t behind e, tokenize "a => <t | f();" = .ok (before ++ t :: behind) ∧
      file (before ++ t :: behind) = .error e ∧ Viable before ∧ ¬Viable (before ++ [t]) ∧
      .mark .comma ∈ e.expected ∧ ¬Viable (before ++ [⟨.comma, t.pos⟩])) ∧
    ∃ before t behind e, tokenize ";" = .ok (before ++ t :: behind) ∧
      file (before ++ t :: behind) = .error e ∧ Viable before ∧ ¬Viable (before ++ [t]) ∧
      Viable (before ++ [⟨.endOfFile, t.pos⟩]) ∧ e.expected = [.ruleName] := by
  constructor
  · let front : List Token := [⟨.name "a", ⟨1, 1⟩⟩, ⟨.arrow, ⟨1, 3⟩⟩, ⟨.less, ⟨1, 6⟩⟩,
      ⟨.name "t", ⟨1, 7⟩⟩]
    have htokens : tokenize "a => <t | f();" = .ok (front ++ ⟨.pipe, ⟨1, 9⟩⟩ ::
        [⟨.name "f", ⟨1, 11⟩⟩, ⟨.leftParen, ⟨1, 12⟩⟩, ⟨.rightParen, ⟨1, 13⟩⟩,
          ⟨.semicolon, ⟨1, 14⟩⟩, ⟨.endOfFile, ⟨1, 15⟩⟩]) := by cbv
    have hrun : State.rule.run front = some (.produced true) := rfl
    have hfile := (file_eq_error_iff htokens).mpr ⟨front, _, _, _, rfl, hrun, rfl, rfl⟩
    exact ⟨front, _, _, _, htokens, hfile, viable_iff.mpr ⟨_, hrun⟩,
      (viable_concat_iff hrun _).not.mpr (by decide), by simp [named],
      (viable_concat_iff hrun _).not.mpr (by decide)⟩
  · have htokens : tokenize ";" =
        .ok ([] ++ ⟨.semicolon, ⟨1, 1⟩⟩ :: [⟨.endOfFile, ⟨1, 2⟩⟩]) := by cbv
    have hrun : State.rule.run [] = some .rule := rfl
    have hfile := (file_eq_error_iff htokens).mpr ⟨[], _, _, _, rfl, hrun, rfl, rfl⟩
    exact ⟨[], _, _, _, htokens, hfile, viable_iff.mpr ⟨_, hrun⟩,
      (viable_concat_iff hrun _).not.mpr (by decide), (viable_concat_iff hrun _).mpr rfl, rfl⟩

end Parser
end RuleGraph
