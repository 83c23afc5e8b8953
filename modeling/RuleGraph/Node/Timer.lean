import RuleGraph.Node.Behaviour

/-!
# The producer `timer`

Emits 1, 2, 3, … at a fixed interval, `freq`, until a stop is requested or, with `count`, until
that many messages went out. The count is looked at behind each message, so the first one always
goes out.
-/
namespace RuleGraph

structure Timer where
  interval : Duration
  count : Option Nat
  deriving DecidableEq, Repr

namespace Timer

def typeName : String := "timer"

/-- The remark that tells when a tick was made. -/
def timeKey : String := "time"

/-- Whether the timer is done when `n` messages have gone out. -/
def isDone (t : Timer) (n : Nat) : Bool :=
  match t.count with
  | some most => most ≤ n
  | none => false

/-- Move 0 ends the run. With `n` messages out, move `2n + 1` waits for the next tick and move
`2n + 2` emits it. -/
def move (t : Timer) : Nat → Move
  | 0 => .finish
  | k + 1 =>
    let n := k / 2
    if k % 2 = 0 then .pause t.interval (k + 2) 0
    else
      .emitTimed timeKey (.ofPayload (.int (n + 1 : Nat)))
        (if t.isDone (n + 1) then 0 else k + 2)

def producer (t : Timer) : Producer := ⟨1, t.move⟩

def ofParams (params : Params) : Except NodeError Timer := do
  let interval := (← params.duration? "freq").getD Duration.oneSecond
  if interval.isZero then .error (.invalidParam "freq" (params.getD "freq" "") "must be > 0")
  else return ⟨interval, ← params.read? "count" (Text.readUnsigned 64)⟩

def make (params : Params) : Except NodeError Producer := (ofParams params).map producer

end Timer
end RuleGraph
