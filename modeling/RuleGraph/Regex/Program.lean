import RuleGraph.Regex.Meaning
import RuleGraph.Regex.Room
import RuleGraph.Unicode.Property
import Std.Data.HashSet

/-!
# Matching

A pattern becomes a program of states. Among the matches that begin leftmost, the one is taken
that the order of the alternatives prefers; no pair of state and position is visited twice.
-/
namespace RuleGraph

namespace Regex

open Unicode (Ranges)

inductive State
  | chars (set : Ranges) (next : Nat)
  | look (kind : Look) (next : Nat)
  | save (slot : Nat) (next : Nat)
  | branch (targets : List Nat)
  | accept
  deriving Repr, Inhabited

abbrev Program := Array State

/-- The choice between repeating and going on, in the order of preference. -/
def branchOf (greedy : Bool) (again onward : Nat) : State :=
  .branch (if greedy then [again, onward] else [onward, again])

/-- Apply a step `n` times. -/
def times {α : Type} (n : Nat) (f : α → α) (a : α) : α :=
  match n with
  | 0 => a
  | n + 1 => times n f (f a)

mutual

/-- Put the states of a pattern in front of the state `next`; gives the first of them. -/
def Pattern.build : Pattern → Nat → Program → Nat × Program
  | .empty, next, prog => (next, prog)
  | .literal text, next, prog =>
    text.foldr (fun c s => (s.2.size, s.2.push (.chars [(c.toNat, c.toNat)] s.1))) (next, prog)
  | .chars set, next, prog => (prog.size, prog.push (.chars set next))
  | .look kind, next, prog => (prog.size, prog.push (.look kind next))
  | .capture index body, next, prog =>
    let prog := prog.push (.save (2 * index + 1) next)
    let (entry, prog) := body.build (prog.size - 1) prog
    (prog.size, prog.push (.save (2 * index) entry))
  | .concat parts, next, prog => buildParts parts next prog
  | .alternation branches, next, prog =>
    let (targets, prog) := buildBranches branches next prog
    (prog.size, prog.push (.branch targets))
  | .repetition least most greedy body, next, prog =>
    let exactly (n : Nat) (s : Nat × Program) : Nat × Program :=
      times n (fun s => body.build s.1 s.2) s
    match most with
    | some most =>
      let optional (s : Nat × Program) : Nat × Program :=
        let (entry, prog) := body.build s.1 s.2
        (prog.size, prog.push (branchOf greedy entry next))
      exactly least (times (most - least) optional (next, prog))
    | none =>
      let loop := prog.size
      let (entry, prog) := body.build loop (prog.push .accept)
      let prog := prog.set! loop (branchOf greedy entry next)
      if least = 0 then
        if body.takesSomething then (loop, prog)
        else (prog.size, prog.push (branchOf greedy entry next))
      else exactly (least - 1) (entry, prog)

/-- Put the states of the parts of a sequence in front of the state `next`. -/
def buildParts : List Pattern → Nat → Program → Nat × Program
  | [], next, prog => (next, prog)
  | p :: ps, next, prog =>
    let (entry, prog) := buildParts ps next prog
    p.build entry prog

/-- Put the states of each branch in front of the state `next`; gives the first ones. -/
def buildBranches : List Pattern → Nat → Program → List Nat × Program
  | [], _, prog => ([], prog)
  | p :: ps, next, prog =>
    let (targets, prog) := buildBranches ps next prog
    let (entry, prog) := p.build next prog
    (entry :: targets, prog)

end

def isWord (ascii : Bool) (c : Char) : Bool :=
  if ascii || c.toNat < 0x80 then c.isAlphanum || c = '_'
  else Ranges.contains Unicode.Property.wordCharacters c

/-- Whether a position of a text satisfies a condition. -/
def Look.holds (kind : Look) (text : Array Char) (pos : Nat) : Bool :=
  let before? := if pos = 0 then none else text[pos - 1]?
  let after? := text[pos]?
  let word (ascii : Bool) (c? : Option Char) : Bool :=
    match c? with
    | some c => isWord ascii c
    | none => false
  match kind with
  | .textStart => pos == 0
  | .textEnd => pos == text.size
  | .lineStart false => pos == 0 || before? == some '\n'
  | .lineStart true =>
    pos == 0 || before? == some '\n' || (before? == some '\r' && after? != some '\n')
  | .lineEnd false => pos == text.size || after? == some '\n'
  | .lineEnd true =>
    pos == text.size || after? == some '\r' || (after? == some '\n' && before? != some '\r')
  | .wordBoundary a => word a before? != word a after?
  | .notWordBoundary a => word a before? == word a after?
  | .wordStart a => !word a before? && word a after?
  | .wordEnd a => word a before? && !word a after?
  | .wordStartHalf a => !word a before?
  | .wordEndHalf a => !word a after?

/-- A place still to be explored, with the groups as they stand there. -/
structure Frame where
  state : Nat
  pos : Nat
  slots : Array (Option Nat)

/-- The pairs of state and position that a search has come to, as single numbers. -/
abbrev Visited := Std.HashSet Nat

/-- Explore places, the most preferred first, until a match is complete. -/
def explore (prog : Program) (text : Array Char) :
    Nat → List Frame → Visited → Option (Array (Option Nat)) × Visited
  | 0, _, visited => (none, visited)
  | _, [], visited => (none, visited)
  | fuel + 1, frame :: frames, visited =>
    let place := frame.state * (text.size + 1) + frame.pos
    if visited.contains place then explore prog text fuel frames visited
    else
      let visited := visited.insert place
      match prog[frame.state]? with
      | some (.chars set next) =>
        match text[frame.pos]? with
        | some c =>
          if Ranges.contains set c then
            explore prog text fuel ({ frame with state := next, pos := frame.pos + 1 } :: frames)
              visited
          else explore prog text fuel frames visited
        | none => explore prog text fuel frames visited
      | some (.look kind next) =>
        if kind.holds text frame.pos then
          explore prog text fuel ({ frame with state := next } :: frames) visited
        else explore prog text fuel frames visited
      | some (.save slot next) =>
        let slots := frame.slots.setIfInBounds slot (some frame.pos)
        explore prog text fuel ({ frame with state := next, slots := slots } :: frames) visited
      | some (.branch targets) =>
        explore prog text fuel (targets.map (fun t => { frame with state := t }) ++ frames) visited
      | some .accept => (some frame.slots, visited)
      | none => explore prog text fuel frames visited

/-- The number of ways out of all states, and of the states themselves. -/
def waysOut (prog : Program) : Nat :=
  prog.foldl (fun n s => n + match s with | .branch ts => ts.length + 1 | _ => 2) 0

end Regex

/-- A compiled regular expression. -/
structure Regex where
  program : Regex.Program
  entry : Nat
  groups : Nat
  /-- How many places a search comes to at each position, at most. -/
  breadth : Nat
  deriving Repr

namespace Regex

/-- The regular expression that a pattern text denotes. Patterns that take too much room
are refused. -/
def compile? (text : String) : Option Regex :=
  match Pattern.ofText? text.toList with
  | none => none
  | some (pattern, groups) =>
    if pattern.fits then
      let (entry, prog) := (Pattern.capture 0 pattern).build 0 #[.accept]
      some ⟨prog, entry, groups, waysOut prog⟩
    else none

/-- How many steps a search takes at most. -/
def searchFuel (r : Regex) (text : Array Char) : Nat := (r.breadth + 2) * (text.size + 2)

/-- The groups of the match that begins first at one of the given positions. -/
def searchFrom (r : Regex) (text : Array Char) : List Nat → Visited → Option (Array (Option Nat))
  | [], _ => none
  | start :: starts, visited =>
    let slots := Array.replicate (2 * (r.groups + 1)) none
    match explore r.program text (r.searchFuel text) [⟨r.entry, start, slots⟩] visited with
    | (some slots, _) => some slots
    | (none, visited) => searchFrom r text starts visited

/-- The groups of the first match that begins at or behind `start`. -/
def find? (r : Regex) (text : Array Char) (start : Nat) : Option (Array (Option Nat)) :=
  searchFrom r text ((List.range (text.size + 1 - start)).map (· + start)) {}

def isMatch (r : Regex) (text : String) : Bool := (r.find? text.toList.toArray 0).isSome

/-- The bounds of a group in a match. -/
def groupBounds? (slots : Array (Option Nat)) (group : Nat) : Option (Nat × Nat) :=
  match slots[2 * group]?, slots[2 * group + 1]? with
  | some (some a), some (some b) => some (a, b)
  | _, _ => none

/-- All matches from `start` on, one behind the other. An empty match directly behind the match
before it is passed over. -/
def matchesFrom (r : Regex) (text : Array Char) :
    Nat → Nat → Option Nat → List (Array (Option Nat))
  | 0, _, _ => []
  | fuel + 1, start, lastEnd =>
    if text.size < start then []
    else match r.find? text start with
      | none => []
      | some slots =>
        match groupBounds? slots 0 with
        | none => []
        | some (a, b) =>
          if a = b && lastEnd = some b then matchesFrom r text fuel (start + 1) lastEnd
          else slots :: matchesFrom r text fuel b (some b)

/-- The text of each match's first group, or of the whole match where that group took no part. -/
def extract (r : Regex) (text : String) : List String :=
  let chars := text.toList.toArray
  (matchesFrom r chars (2 * chars.size + 4) 0 none).filterMap fun slots =>
    ((groupBounds? slots 1).orElse fun _ => groupBounds? slots 0).map fun (a, b) =>
      String.ofList (chars.extract a b).toList

end Regex
end RuleGraph
