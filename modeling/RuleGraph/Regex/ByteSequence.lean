import RuleGraph.Unicode.Ranges

/-!
# Byte sequences of characters

The UTF-8 forms of the characters in a range, as sequences of ranges of bytes.
-/
namespace RuleGraph.Regex

open Unicode (Ranges)

/-- The bytes from `first` to `last`. -/
structure ByteRange where
  first : UInt8
  last : UInt8
  deriving DecidableEq, Repr

abbrev ByteSequence := List ByteRange

namespace ByteSequence

/-- Cut a range where the number of bytes changes with which characters are encoded. -/
def cutByLength (r : Nat × Nat) : Ranges :=
  [(0, 0x7F), (0x80, 0x7FF), (0x800, 0xD7FF), (0xE000, 0xFFFF),
   (0x10000, Unicode.Ranges.lastCode)].filterMap fun part =>
    let lo := max r.1 part.1
    let hi := min r.2 part.2
    if lo ≤ hi then some (lo, hi) else none

/-- Cut the incomplete blocks of `size` code points off the two ends of a range. -/
def cutByBlock (size : Nat) (r : Nat × Nat) : Ranges :=
  if r.2 ≤ 0x7F || r.1 / size = r.2 / size then [r]
  else
    let first := (r.1 + size - 1) / size * size
    let last := (r.2 + 1) / size * size
    (if r.1 < first then [(r.1, first - 1)] else []) ++
      (if first < last then [(first, last - 1)] else []) ++
      (if last ≤ r.2 then [(last, r.2)] else [])

/-- The sequences for the characters of a range, in order. -/
def ofRange (r : Nat × Nat) : List ByteSequence :=
  let pieces := (cutByLength r).flatMap (cutByBlock 64) |>.flatMap (cutByBlock 4096)
    |>.flatMap (cutByBlock 262144)
  pieces.map fun piece =>
    List.zipWith ByteRange.mk (String.utf8EncodeChar (Char.ofNat piece.1))
      (String.utf8EncodeChar (Char.ofNat piece.2))

def ofSet (set : Ranges) : List ByteSequence := set.flatMap ofRange

end ByteSequence
end RuleGraph.Regex
