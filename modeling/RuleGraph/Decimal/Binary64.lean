/-!
# Binary64 values

A value is kept as a sign, a significand and a power of two, so that rounding a quotient,
multiplying and dividing are exact natural-number arithmetic followed by one rounding to the
nearest value, ties to the even significand.
-/
namespace RuleGraph

/-- A binary64 value. A finite one is ± `significand` · 2^`exponent` with `significand < 2^53`,
and either `significand ≥ 2^52` or `exponent = -1074`. -/
inductive Binary64
  | nan
  | infinite (negative : Bool)
  | finite (negative : Bool) (significand : Nat) (exponent : Int)
  deriving DecidableEq, Repr, Inhabited

namespace Binary64

/-- The quotient of two naturals rounded to the nearest natural, a half to the even neighbour. -/
def roundDiv (num den : Nat) : Nat :=
  let q := num / den
  let r := num % den
  if 2 * r < den then q
  else if den < 2 * r then q + 1
  else if q % 2 = 0 then q else q + 1

def zero (negative : Bool) : Binary64 := .finite negative 0 (-1074)

/-- The largest power of two, as an exponent, that does not exceed `num / den`. -/
def binade (num den : Nat) : Int :=
  let guess : Int := (num.log2 : Int) - (den.log2 : Int)
  if num * Nat.pow 2 (-guess).toNat < den * Nat.pow 2 guess.toNat then guess - 1 else guess

/-- The value nearest to ± `num / den`; beyond the largest finite value, an infinity. -/
def ofRatio (negative : Bool) (num den : Nat) : Binary64 :=
  if num = 0 then zero negative
  else
    let q := max (binade num den - 52) (-1074)
    let m := roundDiv (num * Nat.pow 2 (-q).toNat) (den * Nat.pow 2 q.toNat)
    let (m, q) := if m = Nat.pow 2 53 then (Nat.pow 2 52, q + 1) else (m, q)
    if 971 < q then .infinite negative else .finite negative m q

/-- The value nearest to ± `digits` · 10^`exponent`. Values far outside the finite range are
decided by their number of digits, so that no huge power of ten is formed. -/
def ofDecimal (negative : Bool) (digits : Nat) (exponent : Int) : Binary64 :=
  if digits = 0 then zero negative
  else
    let places : Int := (Nat.toDigits 10 digits).length + exponent
    if 400 < places then .infinite negative
    else if places < -400 then zero negative
    else ofRatio negative (digits * Nat.pow 10 exponent.toNat) (Nat.pow 10 (-exponent).toNat)

def ofNat (n : Nat) : Binary64 := ofRatio false n 1

/-- The size of a finite value as a quotient of naturals. -/
def ratio (significand : Nat) (exponent : Int) : Nat × Nat :=
  (significand * Nat.pow 2 exponent.toNat, Nat.pow 2 (-exponent).toNat)

def isFinite : Binary64 → Bool
  | .finite .. => true
  | _ => false

def isZero : Binary64 → Bool
  | .finite _ m _ => m == 0
  | _ => false

def isNegative : Binary64 → Bool
  | .nan => false
  | .infinite negative => negative
  | .finite negative .. => negative

/-- Below zero; the negative zero is not. -/
def isBelowZero (x : Binary64) : Bool := x.isNegative && !x.isZero

def neg : Binary64 → Binary64
  | .nan => .nan
  | .infinite s => .infinite !s
  | .finite s m q => .finite (!s) m q

def mul : Binary64 → Binary64 → Binary64
  | .finite s m q, .finite t n r =>
    let (a, b) := ratio m q
    let (c, d) := ratio n r
    ofRatio (s != t) (a * c) (b * d)
  | .nan, _ => .nan
  | _, .nan => .nan
  | x, y =>
    if x.isZero || y.isZero then .nan else .infinite (x.isNegative != y.isNegative)

def div : Binary64 → Binary64 → Binary64
  | .finite s m q, .finite t n r =>
    if n = 0 then (if m = 0 then .nan else .infinite (s != t))
    else
      let (a, b) := ratio m q
      let (c, d) := ratio n r
      ofRatio (s != t) (a * d) (b * c)
  | .nan, _ => .nan
  | _, .nan => .nan
  | .infinite s, y => if y.isFinite then .infinite (s != y.isNegative) else .nan
  | .finite s _ _, .infinite t => zero (s != t)

/-- Numeric equality: the two zeros are equal, and `nan` equals nothing. -/
def same : Binary64 → Binary64 → Bool
  | .nan, _ => false
  | x, y => x == y || (x.isZero && y.isZero)

/-- The integer that a finite value without fractional part equals. -/
def toInt? : Binary64 → Option Int
  | .finite s m q =>
    let (a, b) := ratio m q
    if a % b = 0 then some (if s then -(a / b : Nat) else (a / b : Nat)) else none
  | _ => none

end Binary64
end RuleGraph
