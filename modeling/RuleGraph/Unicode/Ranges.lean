/-!
# Sets of characters

A set is a list of inclusive ranges of code points. `normal` puts the ranges in order and joins
those that meet; the other operations give normal sets.
-/
namespace RuleGraph.Unicode

abbrev Ranges := List (Nat × Nat)

namespace Ranges

def lastCode : Nat := 0x10FFFF

/-- Join ranges in order with the range `current` before them. -/
def joinFrom (current : Nat × Nat) : Ranges → Ranges
  | [] => [current]
  | (lo, hi) :: rest =>
    if lo ≤ current.2 + 1 then joinFrom (current.1, max current.2 hi) rest
    else current :: joinFrom (lo, hi) rest

def normal (ranges : Ranges) : Ranges :=
  match ranges.mergeSort (fun a b => a.1 ≤ b.1) with
  | [] => []
  | r :: rest => joinFrom r rest

def union (a b : Ranges) : Ranges := normal (a ++ b)

/-- The code points from `start` on that a normal set leaves out. -/
def gapsFrom (start : Nat) : Ranges → Ranges
  | [] => if start ≤ lastCode then [(start, lastCode)] else []
  | (lo, hi) :: rest =>
    if start < lo then (start, lo - 1) :: gapsFrom (hi + 1) rest else gapsFrom (hi + 1) rest

def complement (a : Ranges) : Ranges := gapsFrom 0 (normal a)

def inter (a b : Ranges) : Ranges := complement (union (complement a) (complement b))

def diff (a b : Ranges) : Ranges := inter a (complement b)

def symmDiff (a b : Ranges) : Ranges := union (diff a b) (diff b a)

def contains (a : Ranges) (c : Char) : Bool :=
  a.any fun r => r.1 ≤ c.toNat && c.toNat ≤ r.2

end Ranges

/-- Every other code point between two, both included. -/
def everyOther (bounds : Nat × Nat) : Ranges :=
  (List.range ((bounds.2 - bounds.1) / 2 + 1)).map fun i =>
    (bounds.1 + 2 * i, bounds.1 + 2 * i)

end RuleGraph.Unicode
