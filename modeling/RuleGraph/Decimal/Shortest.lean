import RuleGraph.Decimal.Binary64

/-!
# The fewest digits that read back

`shortest` finds, for a positive binary64 value, the decimal with the fewest digits among those
that round to it, and of these the nearest. `plain` and `scientific` lay digits out.
-/
namespace RuleGraph.Decimal

/-- `digits` · 10^`exponent`. -/
structure Digits where
  digits : Nat
  exponent : Int
  deriving DecidableEq, Repr

/-- Which of two equally near decimals is taken. -/
inductive Tie
  | up
  | even
  deriving DecidableEq, Repr

/-- Compare `a` · 10^`i` with `b` · 2^`j`. -/
def compareScaled (a : Nat) (i : Int) (b : Nat) (j : Int) : Ordering :=
  compare (a * Nat.pow 10 i.toNat * Nat.pow 2 (-j).toNat)
    (b * Nat.pow 2 j.toNat * Nat.pow 10 (-i).toNat)

/-- Whether a decimal rounds to `m` · 2^`q`: it lies between the midpoints to the two neighbours,
the midpoints included when `m` is even. Below a power of two the gap is half as wide. -/
def readsBack (m : Nat) (q : Int) (d : Digits) : Bool :=
  let low := if m = Nat.pow 2 52 && -1074 < q then 4 * m - 1 else 4 * m - 2
  let high := 4 * m + 2
  let closed := m % 2 == 0
  let below := compareScaled d.digits d.exponent low (q - 2)
  let above := compareScaled d.digits d.exponent high (q - 2)
  (below == .gt || (closed && below == .eq)) && (above == .lt || (closed && above == .eq))

/-- The least `k` with `m` · 2^`q` < 10^`k`, searched upwards from a lower estimate. -/
def places (m : Nat) (q : Int) : Int :=
  let estimate : Int := ((m.log2 : Int) + q) * 30103 / 100000
  if compareScaled 1 estimate m q == .gt then estimate
  else if compareScaled 1 (estimate + 1) m q == .gt then estimate + 1
  else estimate + 2

/-- The neighbour of `m` · 2^`q` on the grid of 10^`g` that rounds to it, the nearer of two. -/
def onGrid? (tie : Tie) (m : Nat) (q g : Int) : Option Digits :=
  let floor := m * Nat.pow 2 q.toNat * Nat.pow 10 (-g).toNat /
    (Nat.pow 10 g.toNat * Nat.pow 2 (-q).toNat)
  let low : Digits := ⟨floor, g⟩
  let high : Digits := ⟨floor + 1, g⟩
  match readsBack m q low, readsBack m q high with
  | true, true =>
    match compareScaled (2 * floor + 1) g (2 * m) q with
    | .gt => some low
    | .lt => some high
    | .eq => if tie = .even && floor % 2 = 0 then some low else some high
  | true, false => some low
  | false, true => some high
  | false, false => none

/-- The first of the next `fuel` ever finer grids that holds a decimal which reads back. -/
def firstGrid? (tie : Tie) (m : Nat) (q : Int) : Nat → Int → Option Digits
  | 0, _ => none
  | fuel + 1, g =>
    match onGrid? tie m q g with
    | some d => some d
    | none => firstGrid? tie m q fuel (g - 1)

/-- Trailing zeros move from the digits into the exponent. -/
def Digits.strip (d : Digits) : Nat → Digits
  | 0 => d
  | fuel + 1 =>
    if d.digits ≠ 0 && d.digits % 10 = 0 then Digits.strip ⟨d.digits / 10, d.exponent + 1⟩ fuel
    else d

/-- The exact decimal value, used where no shorter decimal is found. -/
def exactDigits (m : Nat) (q : Int) : Digits :=
  if 0 ≤ q then ⟨m * Nat.pow 2 q.toNat, 0⟩ else ⟨m * Nat.pow 5 (-q).toNat, q⟩

/-- The fewest digits that read back to the positive value `m` · 2^`q`. -/
def shortest (tie : Tie) (m : Nat) (q : Int) : Digits :=
  let d := (firstGrid? tie m q 17 (places m q - 1)).getD (exactDigits m q)
  d.strip 400

/-- Positional layout: a point inside the digits or zeros that fill up to it. With `fraction`, a
whole number is written with `.0`. -/
def plain (fraction : Bool) (d : Digits) : String :=
  let text := Nat.toDigits 10 d.digits
  let point : Int := text.length + d.exponent
  if 0 ≤ d.exponent then
    String.ofList (text ++ List.replicate d.exponent.toNat '0') ++ (if fraction then ".0" else "")
  else if 0 < point then
    String.ofList (text.take point.toNat) ++ "." ++ String.ofList (text.drop point.toNat)
  else
    "0." ++ String.ofList (List.replicate (-point).toNat '0' ++ text)

/-- One digit before the point, and a signed power of ten. -/
def scientific (d : Digits) : String :=
  let text := Nat.toDigits 10 d.digits
  let power : Int := text.length + d.exponent - 1
  let tail := text.drop 1
  String.ofList (text.take 1) ++ (if tail.isEmpty then "" else "." ++ String.ofList tail) ++ "e" ++
    (if power < 0 then "-" else "+") ++ toString power.natAbs

end RuleGraph.Decimal

namespace RuleGraph.Binary64
open RuleGraph.Decimal

/-- Numbers of the rule language are written positionally, whole ones without a point. -/
def text : Binary64 → String
  | .nan => "NaN"
  | .infinite negative => if negative then "-inf" else "inf"
  | .finite negative m q =>
    (if negative then "-" else "") ++ (if m = 0 then "0" else plain false (shortest .up m q))

/-- Payload numbers keep a fraction, and take an exponent below 10^-5 and from 10^16 on. -/
def jsonText : Binary64 → String
  | .finite negative m q =>
    (if negative then "-" else "") ++
      (if m = 0 then "0.0"
      else
        let d := shortest .even m q
        let point : Int := (Nat.toDigits 10 d.digits).length + d.exponent
        if -4 ≤ point && point ≤ 16 then plain true d else scientific d)
  | _ => "null"

end RuleGraph.Binary64
