import RuleGraph.Decimal.Binary64

/-!
# Reading numbers

`Binary64.read?` accepts a sign, digits with at most one point and at least one digit, and an
exponent; besides these, the words for infinity and not-a-number. Integers are read with bounds.
-/
namespace RuleGraph.Decimal

def isDigit (c : Char) : Bool := '0' ≤ c && c ≤ '9'

def digitValue (c : Char) : Nat := c.toNat - '0'.toNat

/-- The natural number that a list of digits denotes. -/
def natOf (cs : List Char) : Nat := cs.foldl (fun n c => 10 * n + digitValue c) 0

/-- A leading sign, as "is negative", and the text after it. -/
def sign : List Char → Bool × List Char
  | '-' :: cs => (true, cs)
  | '+' :: cs => (false, cs)
  | cs => (false, cs)

/-- The exponent of a number: nothing, or `e` with an optional sign and digits up to the end. -/
def exponent? : List Char → Option Int
  | [] => some 0
  | c :: cs =>
    if c = 'e' || c = 'E' then
      let (negative, digits) := sign cs
      if digits.isEmpty || !digits.all isDigit then none
      else some (if negative then -(natOf digits : Int) else natOf digits)
    else none

def lower (cs : List Char) : List Char := cs.map Char.toLower

/-- The number that a text without sign denotes. -/
def magnitude? (negative : Bool) (cs : List Char) : Option Binary64 :=
  let whole := cs.takeWhile isDigit
  let rest := cs.dropWhile isDigit
  let (fraction, rest) :=
    match rest with
    | '.' :: r => (r.takeWhile isDigit, r.dropWhile isDigit)
    | r => ([], r)
  let digits := whole ++ fraction
  if digits.isEmpty then
    if lower cs = "inf".toList || lower cs = "infinity".toList then some (.infinite negative)
    else if lower cs = "nan".toList then some .nan
    else none
  else
    (exponent? rest).map fun e => Binary64.ofDecimal negative (natOf digits) (e - fraction.length)

end RuleGraph.Decimal

namespace RuleGraph.Binary64
open RuleGraph.Decimal

/-- The binary64 value nearest to the number that the text denotes. -/
def read? (cs : List Char) : Option Binary64 :=
  let (negative, rest) := sign cs
  magnitude? negative rest

end RuleGraph.Binary64
