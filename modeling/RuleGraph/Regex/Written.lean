import RuleGraph.Unicode.Ranges

/-!
# Patterns as they are written

The tree of a pattern text before flags and letter case take effect.
-/
namespace RuleGraph.Regex

open Unicode (Ranges)

/-- A character of a pattern text. `byteEscape` says that two hexadecimal digits behind `\x` stand
for it. -/
structure Literal where
  char : Char
  byteEscape : Bool := false
  deriving Repr

/-- The sets that a letter behind a backslash denotes. -/
inductive LetterSet
  | digit
  | space
  | word
  deriving DecidableEq, Repr

inductive ClassOp
  | inter
  | diff
  | symmDiff
  deriving DecidableEq, Repr

/-- A set of characters as it is written. The sets of named classes and of properties are known
by the name alone. -/
inductive ClassTree
  | nothing
  | literal (c : Literal)
  | range (low high : Literal)
  | letters (negated : Bool) (kind : LetterSet)
  | ascii (negated : Bool) (set : Ranges)
  | property (negated : Bool) (set : Ranges)
  | bracketed (negated : Bool) (inner : ClassTree)
  | union (members : List ClassTree)
  | combined (op : ClassOp) (left right : ClassTree)
  deriving Repr

inductive Flag
  | ignoreCase
  | multiLine
  | dotAll
  | swapGreed
  | unicode
  | crlf
  | verbose
  deriving DecidableEq, Repr

/-- Flags with the values that they take on. -/
abbrev FlagChange := List (Flag × Bool)

inductive Assertion
  | lineStart
  | lineEnd
  | textStart
  | textEnd
  | wordBoundary
  | notWordBoundary
  | wordStart
  | wordEnd
  | wordStartHalf
  | wordEndHalf
  deriving DecidableEq, Repr

inductive GroupKind
  | capture (index : Nat)
  | flagged (change : FlagChange)
  deriving Repr

inductive Written
  | empty
  | flags (change : FlagChange)
  | literal (c : Literal)
  | dot
  | assertion (kind : Assertion)
  | set (tree : ClassTree)
  | repetition (least : Nat) (most : Option Nat) (greedy : Bool) (body : Written)
  | group (kind : GroupKind) (body : Written)
  | alternation (branches : List Written)
  | concat (parts : List Written)
  deriving Repr

/-- A tree with the number of its levels. Characters and other parts without parts count none. -/
structure Deep (α : Type) where
  tree : α
  depth : Nat := 0
  deriving Repr

namespace Deep

/-- One level more. -/
def wrap {α β : Type} (f : α → β) (d : Deep α) : Deep β := ⟨f d.tree, d.depth + 1⟩

def deepest {α : Type} (ds : List (Deep α)) : Nat := ds.foldl (fun n d => max n d.depth) 0

/-- Several trees below a common root. A single tree stays as it is. -/
def gather {α : Type} (nothing : α) (f : List α → α) : List (Deep α) → Deep α
  | [] => ⟨nothing, 0⟩
  | [d] => d
  | ds => ⟨f (ds.map Deep.tree), deepest ds + 1⟩

end Deep
end RuleGraph.Regex
