import RuleGraph.Journal
import RuleGraph.Node.Message

/-!
# What nodes do

A filter reacts to a message: it may emit messages, and passes a verdict on a copy of the message
that it may have rewritten. A producer is a program of moves, numbered by naturals.
-/
namespace RuleGraph

/-- The end of a filter's work on one message. -/
inductive Verdict
  /-- Whether the filter matched, and its copy of the message. -/
  | decided (matched : Bool) (copy : Message)
  | failed (error : NodeError)
  | panicked
  deriving Repr

structure Reaction where
  emitted : List Message
  events : List Event
  verdict : Verdict
  deriving Repr

/-- A filter is known by its reaction to each message. -/
abbrev Filter := Message → Reaction

namespace Reaction

def matched (copy : Message) : Reaction := ⟨[], [], .decided true copy⟩

def failed (error : NodeError) : Reaction := ⟨[], [], .failed error⟩

end Reaction

/-- A move of a producer, with the moves that may follow it. -/
inductive Move
  | emit (message : Message) (next : Nat)
  /-- Emit a message that tells under the given key when it was made. -/
  | emitTimed (key : String) (message : Message) (next : Nat)
  /-- Wait until the time is over or a stop is requested. -/
  | pause (time : Duration) (onTime onStop : Nat)
  | awaitStop (next : Nat)
  | finish
  | fail (error : NodeError)
  | panic
  deriving Repr

structure Producer where
  start : Nat
  move : Nat → Move

namespace Producer

/-- How a producer's run stands. -/
inductive Progress
  /-- The producer waits at the move of this number. -/
  | waiting (at_ : Nat)
  | returned
  | failed (error : NodeError)
  | panicked
  deriving DecidableEq, Repr

/-- The messages emitted on the way from a move, and where the way ends. Waits end as `stopped`
says: a stop request ends all of them; without one, time passes if `patient` and the producer
comes to stand at a wait otherwise. `now` is the time that messages tell. -/
def run (p : Producer) (now : String) (stopped patient : Bool) :
    Nat → Nat → List Message × Progress
  | 0, at_ => ([], .waiting at_)
  | fuel + 1, at_ =>
    match p.move at_ with
    | .emit m next =>
      let (ms, progress) := run p now stopped patient fuel next
      (m :: ms, progress)
    | .emitTimed key m next =>
      let (ms, progress) := run p now stopped patient fuel next
      (m.set key (.string now) :: ms, progress)
    | .pause _ onTime onStop =>
      if stopped then run p now stopped patient fuel onStop
      else if patient then run p now stopped patient fuel onTime
      else ([], .waiting at_)
    | .awaitStop next =>
      if stopped then run p now stopped patient fuel next else ([], .waiting at_)
    | .finish => ([], .returned)
    | .fail e => ([], .failed e)
    | .panic => ([], .panicked)

end Producer
end RuleGraph
