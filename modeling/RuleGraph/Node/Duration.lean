import RuleGraph.Decimal.Reading
import RuleGraph.Text.Blank

/-!
# Spans of time

A duration is written as a number with a unit: `ms`, `s`, `m` or `h`, or none for seconds. It is
kept in whole nanoseconds, rounded to the nearest, a half to the even neighbour.
-/
namespace RuleGraph

structure Duration where
  nanos : Nat
  deriving DecidableEq, Repr

inductive DurationFault
  | notDuration (written : String)
  | notPositive (written : String)
  | unknownUnit (unit : String)
  | outOfRange (written : String)
  deriving DecidableEq, Repr

def DurationFault.message : DurationFault → String
  | .notDuration s => s!"`{s}` is not a duration"
  | .notPositive s => s!"`{s}` is not a positive duration"
  | .unknownUnit u => s!"unknown duration unit `{u}`"
  | .outOfRange s =>
    s!"`{s}` is out of range: cannot convert float seconds to Duration: " ++
      "value is either too big or NaN"

namespace Duration

def nanosPerSecond : Nat := Nat.pow 10 9

def isZero (d : Duration) : Bool := d.nanos == 0

def oneSecond : Duration := ⟨nanosPerSecond⟩

/-- Seconds, a point, and nine digits of nanoseconds. -/
def text (d : Duration) : String :=
  let fraction := Nat.toDigits 10 (d.nanos % nanosPerSecond)
  toString (d.nanos / nanosPerSecond) ++ "." ++
    String.ofList (List.replicate (9 - fraction.length) '0' ++ fraction)

/-- A span of so many seconds; whole seconds take 64 bits at most. -/
def ofSeconds? : Binary64 → Option Duration
  | .finite _ m q =>
    let (a, b) := Binary64.ratio m q
    if Nat.pow 2 64 * b ≤ a then none else some ⟨Binary64.roundDiv (a * nanosPerSecond) b⟩
  | _ => none

def isLetter (c : Char) : Bool := ('a' ≤ c && c ≤ 'z') || ('A' ≤ c && c ≤ 'Z')

/-- A number of units in seconds. -/
def inSeconds? (unit : List Char) (x : Binary64) : Option Binary64 :=
  if unit = ['m', 's'] then some (x.div (Binary64.ofNat 1000))
  else if unit = [] || unit = ['s'] then some x
  else if unit = ['m'] then some (x.mul (Binary64.ofNat 60))
  else if unit = ['h'] then some (x.mul (Binary64.ofNat 3600))
  else none

/-- The span that a text denotes. The unit begins with the first ASCII letter, and blanks around
the text and behind the number count for nothing. -/
def parse (written : String) : Except DurationFault Duration :=
  let trimmed := Text.trim written.toList
  let raw := String.ofList trimmed
  let number := trimmed.takeWhile fun c => !isLetter c
  let unit := trimmed.dropWhile fun c => !isLetter c
  match Binary64.read? (Text.trim number) with
  | none => .error (.notDuration raw)
  | some x =>
    if !x.isFinite || x.isBelowZero then .error (.notPositive raw)
    else match inSeconds? unit x with
      | none => .error (.unknownUnit (String.ofList unit))
      | some seconds =>
        match ofSeconds? seconds with
        | none => .error (.outOfRange raw)
        | some d => .ok d

end Duration
end RuleGraph
