import RuleGraph.Regex.Pattern
import RuleGraph.Regex.Reader

/-!
# The meaning of written patterns

Flags are in force from where they stand to the end of their group. Without the flag `u` a pattern
speaks of ASCII only, and what could denote another character in a set is refused.
-/
namespace RuleGraph.Regex

open Unicode (Ranges)

/-- The flags in force at a place of a pattern. -/
structure Flags where
  ignoreCase : Bool := false
  multiLine : Bool := false
  dotAll : Bool := false
  swapGreed : Bool := false
  unicode : Bool := true
  crlf : Bool := false
  deriving Repr

namespace Flags

def set (f : Flags) : Flag × Bool → Flags
  | (.ignoreCase, v) => { f with ignoreCase := v }
  | (.multiLine, v) => { f with multiLine := v }
  | (.dotAll, v) => { f with dotAll := v }
  | (.swapGreed, v) => { f with swapGreed := v }
  | (.unicode, v) => { f with unicode := v }
  | (.crlf, v) => { f with crlf := v }
  | (.verbose, _) => f

def change (f : Flags) (entries : FlagChange) : Flags := entries.foldl set f

end Flags

/-- An ASCII set with both cases of its letters. -/
def closeAscii (set : Ranges) : Ranges :=
  Ranges.normal (set ++ (Ranges.inter set [(0x41, 0x5A)]).map (fun r => (r.1 + 0x20, r.2 + 0x20)) ++
    (Ranges.inter set [(0x61, 0x7A)]).map fun r => (r.1 - 0x20, r.2 - 0x20))

namespace Flags

/-- A set as it counts with or without regard to case. -/
def fold (f : Flags) (set : Ranges) : Ranges :=
  if f.ignoreCase then
    if f.unicode then Unicode.CaseFolding.close set else closeAscii set
  else Ranges.normal set

/-- The opposite of a set, which goes beyond ASCII. -/
def negate? (f : Flags) (negated : Bool) (set : Ranges) : Option Ranges :=
  if negated then (if f.unicode then some (Ranges.complement set) else none) else some set

/-- The character of a literal in a set. -/
def charInSet? (f : Flags) (c : Literal) : Option Nat :=
  if f.unicode || c.char.toNat < 0x80 then some c.char.toNat else none

def letterSet (f : Flags) : LetterSet → Ranges
  | .digit => if f.unicode then Unicode.Category.decimalNumbers else [(0x30, 0x39)]
  | .space => if f.unicode then Unicode.Property.whiteSpace else [(0x9, 0xD), (0x20, 0x20)]
  | .word =>
    if f.unicode then Unicode.Property.wordCharacters
    else [(0x30, 0x39), (0x41, 0x5A), (0x5F, 0x5F), (0x61, 0x7A)]

end Flags

def ClassOp.apply : ClassOp → Ranges → Ranges → Ranges
  | .inter => Ranges.inter
  | .diff => Ranges.diff
  | .symmDiff => Ranges.symmDiff

mutual

/-- The characters that a written set denotes. Case is ignored before a set is negated or
combined with another. -/
def ClassTree.set? (f : Flags) : ClassTree → Option Ranges
  | .nothing => some []
  | .literal c => (f.charInSet? c).map fun n => [(n, n)]
  | .range low high => do return [(← f.charInSet? low, ← f.charInSet? high)]
  | .letters negated kind => f.negate? negated (f.letterSet kind)
  | .ascii negated set => f.negate? negated (f.fold set)
  | .property negated set => if f.unicode then f.negate? negated (f.fold set) else none
  | .bracketed negated inner => do f.negate? negated (f.fold (← inner.set? f))
  | .union members => ClassTree.unionOf? f members
  | .combined op left right => do
    let a ← left.set? f
    let b ← right.set? f
    return op.apply (f.fold a) (f.fold b)

def ClassTree.unionOf? (f : Flags) : List ClassTree → Option Ranges
  | [] => some []
  | t :: ts => do return (← t.set? f) ++ (← ClassTree.unionOf? f ts)

end

namespace Flags

/-- The pattern of a single character. Outside of sets a character beyond ASCII may stand for itself
in any case, but an escape for a byte may not denote it. -/
def literal? (f : Flags) (c : Literal) : Option Pattern :=
  if !f.unicode && c.byteEscape && 0x80 ≤ c.char.toNat then none
  else
    let set : Ranges := [(c.char.toNat, c.char.toNat)]
    if f.unicode || c.char.toNat < 0x80 then some (.ofSet (f.fold set))
    else some (.literal [c.char])

/-- The pattern of a dot: any character, but line ends only with the flag `s`. -/
def dot? (f : Flags) : Option Pattern :=
  if !f.unicode then none
  else if f.dotAll then some (.chars [(0, Ranges.lastCode)])
  else some (.chars (Ranges.complement (if f.crlf then [(10, 10), (13, 13)] else [(10, 10)])))

def look (f : Flags) : Assertion → Look
  | .lineStart => if f.multiLine then .lineStart f.crlf else .textStart
  | .lineEnd => if f.multiLine then .lineEnd f.crlf else .textEnd
  | .textStart => .textStart
  | .textEnd => .textEnd
  | .wordBoundary => .wordBoundary !f.unicode
  | .notWordBoundary => .notWordBoundary !f.unicode
  | .wordStart => .wordStart !f.unicode
  | .wordEnd => .wordEnd !f.unicode
  | .wordStartHalf => .wordStartHalf !f.unicode
  | .wordEndHalf => .wordEndHalf !f.unicode

end Flags

mutual

/-- The pattern that a written pattern denotes under the given flags, and the flags in force
behind it. -/
def Written.meaning? (f : Flags) : Written → Option (Pattern × Flags)
  | .empty => some (.empty, f)
  | .flags change => some (.empty, f.change change)
  | .literal c => (f.literal? c).map fun p => (p, f)
  | .dot => f.dot?.map fun p => (p, f)
  | .assertion kind => some (.look (f.look kind), f)
  | .set tree => (tree.set? f).map fun set => (.ofSet (Ranges.normal set), f)
  | .repetition least most greedy body => do
    let (p, f) ← body.meaning? f
    return (.repeating least most (greedy != f.swapGreed) p, f)
  | .group (.capture index) body => do
    let (p, _) ← body.meaning? f
    return (.capture index p, f)
  | .group (.flagged change) body => do
    let (p, _) ← body.meaning? (f.change change)
    return (p, f)
  | .alternation branches => do
    let (ps, f) ← Written.meanings? f branches
    return (.choosing ps, f)
  | .concat parts => do
    let (ps, f) ← Written.meanings? f parts
    return (.joining ps, f)

def Written.meanings? (f : Flags) : List Written → Option (List Pattern × Flags)
  | [] => some ([], f)
  | w :: ws => do
    let (p, f) ← w.meaning? f
    let (ps, f) ← Written.meanings? f ws
    return (p :: ps, f)

end

/-- The pattern that a text denotes, and the number of its capturing groups. -/
def Pattern.ofText? (text : List Char) : Option (Pattern × Nat) := do
  let (written, captures) ← Written.parse? text
  let (pattern, _) ← written.meaning? {}
  return (pattern, captures)

end RuleGraph.Regex
