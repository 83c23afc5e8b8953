import RuleGraph.Regex.Escape

/-!
# Classes in brackets

A class in brackets holds characters, ranges, escapes, named classes and further classes, and the
operators `&&`, `--` and `~~` between such lists, from left to right.
-/
namespace RuleGraph.Regex.Bracket

open Unicode (Ranges)
open Escape (skip)

def asciiClass? : String → Option Ranges
  | "alnum" => some [(0x30, 0x39), (0x41, 0x5A), (0x61, 0x7A)]
  | "alpha" => some [(0x41, 0x5A), (0x61, 0x7A)]
  | "ascii" => some [(0, 0x7F)]
  | "blank" => some [(9, 9), (0x20, 0x20)]
  | "cntrl" => some [(0, 0x1F), (0x7F, 0x7F)]
  | "digit" => some [(0x30, 0x39)]
  | "graph" => some [(0x21, 0x7E)]
  | "lower" => some [(0x61, 0x7A)]
  | "print" => some [(0x20, 0x7E)]
  | "punct" => some [(0x21, 0x2F), (0x3A, 0x40), (0x5B, 0x60), (0x7B, 0x7E)]
  | "space" => some [(9, 0xD), (0x20, 0x20)]
  | "upper" => some [(0x41, 0x5A)]
  | "word" => some [(0x30, 0x39), (0x41, 0x5A), (0x5F, 0x5F), (0x61, 0x7A)]
  | "xdigit" => some [(0x30, 0x39), (0x41, 0x46), (0x61, 0x66)]
  | _ => none

/-- A class such as `[:alpha:]`, behind its bracket. -/
def namedClass? : List Char → Option (ClassTree × List Char)
  | ':' :: cs =>
    let (negated, cs) :=
      match cs with
      | '^' :: cs => (true, cs)
      | cs => (false, cs)
    match cs.dropWhile (· != ':') with
    | ':' :: ']' :: behind =>
      (asciiClass? (String.ofList (cs.takeWhile (· != ':')))).map fun set =>
        (.ascii negated set, behind)
    | _ => none
  | _ => none

/-- The character that counts as the next one behind a dash. Blanks do not count in verbose
patterns, and of a comment neither its sign nor the blanks at its front. -/
def ahead? (verbose : Bool) (cs : List Char) : Option Char :=
  if verbose then
    match cs.dropWhile Text.isBlank with
    | '#' :: cs => (cs.dropWhile Text.isBlank).head?
    | cs => cs.head?
  else cs.head?

/-- One member of a class: a character, or an escape. -/
def item (verbose : Bool) : List Char → Option (Written × List Char)
  | [] => none
  | '\\' :: cs => Escape.read verbose cs
  | c :: cs => some (.literal ⟨c, false⟩, cs)

def member? : Written → Option (Deep ClassTree)
  | .literal c => some ⟨.literal c, 0⟩
  | .set tree => some ⟨tree, 0⟩
  | _ => none

/-- A member or a range of a class. -/
def range (verbose : Bool) (cs : List Char) : Option (Deep ClassTree × List Char) := do
  let (low, cs) ← item verbose cs
  let cs := skip verbose cs
  let single : Option (Deep ClassTree × List Char) := (member? low).map fun m => (m, cs)
  match cs with
  | [] => none
  | '-' :: behind =>
    if ahead? verbose behind == some ']' || ahead? verbose behind == some '-' then single
    else
      let (high, rest) ← item verbose (skip verbose behind)
      match low, high with
      | .literal a, .literal b =>
        if a.char.toNat ≤ b.char.toNat then return (⟨.range a b, 0⟩, rest) else none
      | _, _ => none
  | _ => single

/-- What is open while a class is read: a bracket with the members of the class around it, the last
one first, or an operator with what stands on its left. -/
inductive Frame
  | bracket (negated : Bool) (outer : List (Deep ClassTree))
  | operand (op : ClassOp) (left : Deep ClassTree)

/-- Members, the last one first, as one tree. -/
def joined (members : List (Deep ClassTree)) : Deep ClassTree :=
  Deep.gather .nothing .union members.reverse

/-- The list read last with the operator in front of it, if there is one. -/
def operated (frames : List Frame) (members : List (Deep ClassTree)) :
    Deep ClassTree × List Frame :=
  let right := joined members
  match frames with
  | .operand op left :: frames =>
    (⟨.combined op left.tree right.tree, max left.depth right.depth + 1⟩, frames)
  | frames => (right, frames)

/-- Dashes at the front of a class stand for themselves. -/
def leadingDashes (verbose : Bool) : Nat → List (Deep ClassTree) → List Char →
    List (Deep ClassTree) × List Char
  | 0, members, cs => (members, cs)
  | fuel + 1, members, cs =>
    match cs with
    | '-' :: rest =>
      leadingDashes verbose fuel (⟨.literal ⟨'-', false⟩, 0⟩ :: members) (skip verbose rest)
    | cs => (members, cs)

/-- The beginning of a class behind its bracket: whether it is negated, and the members that only
stand there. A closing bracket is one if it comes first. -/
def opening (verbose : Bool) (cs : List Char) : Bool × List (Deep ClassTree) × List Char :=
  let cs := skip verbose cs
  let (negated, cs) :=
    match cs with
    | '^' :: cs => (true, skip verbose cs)
    | cs => (false, cs)
  let (dashes, cs) := leadingDashes verbose cs.length [] cs
  match dashes, cs with
  | [], ']' :: cs => (negated, [⟨.literal ⟨']', false⟩, 0⟩], skip verbose cs)
  | dashes, cs => (negated, dashes, cs)

/-- Read up to the bracket that closes the outermost class. -/
def body (verbose : Bool) : Nat → List Frame → List (Deep ClassTree) → List Char →
    Option (Deep ClassTree × List Char)
  | 0, _, _, _ => none
  | fuel + 1, frames, members, cs =>
    let operator (op : ClassOp) (rest : List Char) : Option (Deep ClassTree × List Char) :=
      let (left, frames) := operated frames members
      body verbose fuel (.operand op left :: frames) [] rest
    match skip verbose cs with
    | [] => none
    | '[' :: rest =>
      match namedClass? rest with
      | some (tree, rest) => body verbose fuel frames (⟨tree, 0⟩ :: members) rest
      | none =>
        let (negated, inner, rest) := opening verbose rest
        body verbose fuel (.bracket negated members :: frames) inner rest
    | ']' :: rest =>
      let (inner, frames) := operated frames members
      match frames with
      | .bracket negated outer :: frames =>
        let tree := inner.wrap (.bracketed negated)
        if frames.isEmpty then some (tree, rest)
        else body verbose fuel frames (tree :: outer) rest
      | _ => none
    | '&' :: '&' :: rest => operator .inter rest
    | '-' :: '-' :: rest => operator .diff rest
    | '~' :: '~' :: rest => operator .symmDiff rest
    | cs =>
      match range verbose cs with
      | some (tree, rest) => body verbose fuel frames (tree :: members) rest
      | none => none

/-- A class behind its opening bracket. -/
def read (verbose : Bool) (cs : List Char) : Option (Deep ClassTree × List Char) :=
  let (negated, members, rest) := opening verbose cs
  body verbose (cs.length + 1) [.bracket negated []] members rest

end RuleGraph.Regex.Bracket
