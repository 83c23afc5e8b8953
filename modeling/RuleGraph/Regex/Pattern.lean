import RuleGraph.Unicode.Ranges

/-!
# Patterns

What a pattern text denotes, in a simplified form. The functions `ofSet`, `repeating`, `joining`
and `choosing` build patterns that hold no sequence in a sequence and no choice in a choice, no two
texts side by side and no repetition of nothing.
-/
namespace RuleGraph.Regex

open Unicode (Ranges)

/-- What a position has to satisfy without taking a character. -/
inductive Look
  | textStart
  | textEnd
  | lineStart (crlf : Bool)
  | lineEnd (crlf : Bool)
  | wordBoundary (ascii : Bool)
  | notWordBoundary (ascii : Bool)
  | wordStart (ascii : Bool)
  | wordEnd (ascii : Bool)
  | wordStartHalf (ascii : Bool)
  | wordEndHalf (ascii : Bool)
  deriving DecidableEq, Repr

inductive Pattern
  | empty
  | literal (text : List Char)
  | chars (set : Ranges)
  | look (kind : Look)
  | repetition (least : Nat) (most : Option Nat) (greedy : Bool) (body : Pattern)
  | capture (index : Nat) (body : Pattern)
  | concat (parts : List Pattern)
  | alternation (branches : List Pattern)
  deriving BEq, Repr, Inhabited

namespace Pattern

mutual

/-- The least number of characters that a match has. A pattern that cannot match has none. -/
def leastLength? : Pattern → Option Nat
  | .empty => some 0
  | .literal text => some text.length
  | .chars set => if set.isEmpty then none else some 1
  | .look _ => some 0
  | .repetition least _ _ p => p.leastLength?.map (least * ·)
  | .capture _ p => p.leastLength?
  | .concat ps => leastSum? ps
  | .alternation ps => leastOf? ps

def leastSum? : List Pattern → Option Nat
  | [] => some 0
  | p :: ps => do return (← p.leastLength?) + (← leastSum? ps)

def leastOf? : List Pattern → Option Nat
  | [] => none
  | [p] => p.leastLength?
  | p :: ps => do return min (← p.leastLength?) (← leastOf? ps)

end

mutual

/-- Whether all matches are empty. -/
def takesNothing : Pattern → Bool
  | .empty => true
  | .literal _ => false
  | .chars _ => false
  | .look _ => true
  | .repetition _ most _ p => most.isSome && p.takesNothing
  | .capture _ p => p.takesNothing
  | .concat ps => allTakeNothing ps
  | .alternation ps => allTakeNothing ps

def allTakeNothing : List Pattern → Bool
  | [] => true
  | p :: ps => p.takesNothing && allTakeNothing ps

end

/-- Whether every match takes a character. -/
def takesSomething (p : Pattern) : Bool :=
  match p.leastLength? with
  | some n => 0 < n
  | none => false

/-- A set of characters. A set of one is a text. -/
def ofSet (set : Ranges) : Pattern :=
  match set with
  | [(lo, hi)] => if lo = hi then .literal [Char.ofNat lo] else .chars set
  | _ => .chars set

/-- A repetition. More than one empty match is as good as one, and a single match is no
repetition. -/
def repeating (least : Nat) (most : Option Nat) (greedy : Bool) (body : Pattern) : Pattern :=
  let (least, most) :=
    if body.takesNothing then (min least 1, some (min (most.getD 1) 1)) else (least, most)
  if most = some 0 then .empty
  else if least = 1 && most = some 1 then body
  else .repetition least most greedy body

/-- Put a part in front of a sequence; texts that meet become one. -/
def prepend (p : Pattern) (ps : List Pattern) : List Pattern :=
  match p, ps with
  | .empty, ps => ps
  | .literal a, .literal b :: ps => .literal (a ++ b) :: ps
  | p, ps => p :: ps

def partsOf : Pattern → List Pattern
  | .concat ps => ps
  | p => [p]

def ofParts : List Pattern → Pattern
  | [] => .empty
  | [p] => p
  | ps => .concat ps

/-- A sequence. -/
def joining (ps : List Pattern) : Pattern := ofParts ((ps.flatMap partsOf).foldr prepend [])

def branchesOf : Pattern → List Pattern
  | .alternation ps => ps
  | p => [p]

def single? : Pattern → Option (Nat × Nat)
  | .literal [c] => some (c.toNat, c.toNat)
  | _ => none

def set? : Pattern → Option Ranges
  | .chars set => some set
  | _ => none

/-- A choice between branches that are no choices themselves. Characters and sets of characters
become one set. -/
def ofBranches : List Pattern → Pattern
  | [] => .chars []
  | [p] => p
  | ps =>
    match (ps.mapM single?).orElse fun _ => (ps.mapM set?).map List.flatten with
    | some set => ofSet (Ranges.normal set)
    | none => .alternation ps

/-- What two sequences have in common at the front. -/
def commonFront : List Pattern → List Pattern → List Pattern
  | p :: ps, q :: qs => if p == q then p :: commonFront ps qs else []
  | _, _ => []

/-- What all the given sequences have in common at the front, when all are sequences. -/
def sharedFront : List Pattern → List Pattern
  | .concat ps :: rest =>
    rest.foldl (fun front p =>
      match p with
      | .concat qs => commonFront front qs
      | _ => []) ps
  | _ => []

/-- A choice. Sequences that begin alike share their beginning. -/
def choosing (ps : List Pattern) : Pattern :=
  let branches := ps.flatMap branchesOf
  match branches with
  | [p] => p
  | _ =>
    match sharedFront branches with
    | [] => ofBranches branches
    | front =>
      let rests := branches.map fun p => ofParts ((partsOf p).drop front.length)
      joining (front ++ [ofBranches (rests.flatMap branchesOf)])

end Pattern
end RuleGraph.Regex
