import Mathlib.Logic.Function.Basic
import RuleGraph.Engine.Engine

/-!
# A session of many callers

Any number of callers start, stop and wait for the producers of an engine, and ask whether one of
them runs, while each loop runs in a thread of its own. Starts and stops hold a lock from their
first step to their last; a wait holds it only while it looks who was started, and once more when it
is done.
-/
namespace RuleGraph

/-- The channel by which a loop is told to stop: whether a request lies in it, and whether there is
still somebody who may put one in. -/
structure Signal where
  requested : Bool
  connected : Bool
  deriving DecidableEq, Repr

namespace Signal

/-- What a loop learns when it asks, be it in a sleep or not. -/
inductive Answer
  | request
  | disconnection
  | nothing
  deriving DecidableEq, Repr

def fresh : Signal := ⟨false, true⟩

/-- A request is put in by who gives up the channel. -/
def request (_ : Signal) : Signal := ⟨true, false⟩

def disconnect (s : Signal) : Signal := { s with connected := false }

/-- Asking takes the request out. -/
def ask : Signal → Answer × Signal
  | ⟨true, connected⟩ => (.request, ⟨false, connected⟩)
  | ⟨false, false⟩ => (.disconnection, ⟨false, false⟩)
  | ⟨false, true⟩ => (.nothing, ⟨false, true⟩)

/-- A request and a disconnection both tell a loop to stop. -/
def tellsStop (s : Signal) : Bool := s.ask.1 ≠ .nothing

theorem tellsStop_of_not_connected {s : Signal} (h : s.connected = false) :
    s.tellsStop = true := by
  obtain ⟨requested, connected⟩ := s
  cases h
  cases requested <;> rfl

theorem connected_ask (s : Signal) : s.ask.2.connected = s.connected := by
  obtain ⟨requested, connected⟩ := s
  cases requested <;> cases connected <;> rfl

end Signal

/-- A call of the engine, as it stands. -/
inductive Call
  | unmade
  | starts
  | stops
  | asks
  /-- A wait that has not looked yet who was started; so many loops had begun when it was made. -/
  | waits (since : Nat)
  /-- The call holds the lock. -/
  | holding
  /-- A wait that has to wait for these producers, and now waits for the end of this loop. -/
  | joining (since : Nat) (left : List NodeId) (joined : Option Nat)
  | started (count : Nat)
  /-- No thread was to be had for a loop. -/
  | refused
  /-- These loops were alive when the call took the lock. -/
  | stopped (alive : List Nat)
  | told (running : Bool)
  | waited (since : Nat)

/-- A call that was made, does not hold the lock and is not over. -/
def Call.isPending : Call → Bool
  | .starts | .stops | .asks | .waits _ | .joining .. => true
  | _ => false

/-- The lock of an engine, with what its holder is about to do. -/
inductive Lock
  | free
  /-- Producers are to be started; the loop of one has begun that may not be listed yet. -/
  | starting (caller : Nat) (left : List ProducerNode) (begun : Option NodeId) (count : Nat)
  /-- Producers are to be stopped. -/
  | stopping (caller : Nat) (left : List NodeId) (alive : List Nat)

/-- The call that holds the lock. -/
def Lock.holder? : Lock → Option Nat
  | .free => none
  | .starting caller .. => some caller
  | .stopping caller .. => some caller

/-- The producer whose loop has begun and may not be listed yet. -/
def Lock.begun? : Lock → Option NodeId
  | .starting _ _ begun _ => begun
  | _ => none

structure Session where
  engine : Engine
  /-- The signals of the loops. -/
  signal : Nat → Signal
  /-- Whose thread is gone. -/
  gone : Nat → Bool
  lock : Lock
  call : Nat → Call
  /-- How many loops had begun when a stop last took the lock. -/
  asked : Nat

namespace Session

/-- What callers may ask of an engine. -/
inductive Order
  | start
  | stop
  | wait
  | ask

/-- The call that is made, after so many loops have begun. -/
def Order.call (begun : Nat) : Order → Call
  | .start => .starts
  | .stop => .stops
  | .wait => .waits begun
  | .ask => .asks

/-- Who takes a step. -/
inductive Act
  /-- A caller makes the call of this number. -/
  | make (k : Nat) (order : Order)
  /-- A call that does not hold the lock goes on if it can. -/
  | proceed (k : Nat)
  /-- The holder of the lock goes on. If it begins a loop, there may be no thread for it. -/
  | hold (thread : Bool)
  /-- A loop publishes messages and comes to stand somewhere, or to its end. -/
  | work (i : Nat) (messages : List Message) (progress : Producer.Progress)
  /-- A loop asks whether it is to stop. -/
  | ask (i : Nat)
  /-- The thread of a loop that has ended is gone. -/
  | leave (i : Nat)

def opened (rs : Ruleset) : Session :=
  ⟨.new rs, fun _ => .fresh, fun _ => false, .free, fun _ => .unmade, 0⟩

def setCall (s : Session) (k : Nat) (c : Call) : Session :=
  { s with call := Function.update s.call k c }

/-- The loops whose threads are not gone. -/
def alive (s : Session) : List Nat :=
  (List.range s.engine.loops.length).filter fun i => !s.gone i

def make (s : Session) (k : Nat) (order : Order) : Session :=
  match s.call k with
  | .unmade => s.setCall k (order.call s.engine.loops.length)
  | _ => s

/-- A wait takes over the handle of the producer's loop, if nobody has. -/
def takeHandle (s : Session) (k since : Nat) (id : NodeId) (left : List NodeId) : Session :=
  match (s.engine.feeder id).unjoined with
  | none => s.setCall k (.joining since left none)
  | some i =>
    { s with
      engine := s.engine.setFeeder id { s.engine.feeder id with unjoined := none } }.setCall k
        (.joining since left (some i))

/-- A wait that has waited for a loop tells of its panic. -/
def tellPanic (s : Session) (i : Nat) : Session :=
  match s.engine.loops[i]? with
  | some ⟨n, .panicked, _⟩ => { s with engine := s.engine.note (.producerPanicked n.topic) }
  | _ => s

/-- A wait drops the producers that do not run any more. -/
def prune (s : Session) : Session :=
  { s with
    engine := { s.engine with
      started := s.engine.started.filter fun id => (s.engine.feeder id).running } }

def proceed (s : Session) (k : Nat) : Session :=
  match s.call k, s.lock with
  | .starts, .free =>
    { s with lock := .starting k s.engine.rootProducers none 0 }.setCall k .holding
  | .stops, .free =>
    { s with
      lock := .stopping k s.engine.started s.alive
      asked := s.engine.loops.length }.setCall k .holding
  | .asks, .free => s.setCall k (.told s.engine.isRunning)
  | .waits since, .free => s.setCall k (.joining since s.engine.started none)
  | .joining since (id :: left) none, _ => s.takeHandle k since id left
  | .joining since left (some i), _ =>
    if s.gone i then (s.tellPanic i).setCall k (.joining since left none) else s
  | .joining since [] none, .free => s.prune.setCall k (.waited since)
  | _, _ => s

/-- The signals when something is done to the one that tells the loop of a producer to stop. -/
def signalled (s : Session) (id : NodeId) (f : Signal → Signal) (i : Nat) : Signal :=
  if (s.engine.feeder id).stoppable = some i then f (s.signal i) else s.signal i

/-- Begin a loop of a producer. The channel of the loop before is given up. -/
def begin (s : Session) (n : ProducerNode) : Session :=
  { s with engine := (s.engine.beginLoop n).2, signal := s.signalled n.id .disconnect }

def enlist (s : Session) (id : NodeId) : Session :=
  { s with
    engine := { s.engine with
      started :=
        if s.engine.started.contains id then s.engine.started else s.engine.started ++ [id] } }

/-- Tell the loop of a producer to stop. -/
def request (s : Session) (id : NodeId) : Session :=
  { s with engine := s.engine.stop id, signal := s.signalled id .request }

def release (s : Session) (k : Nat) (c : Call) : Session := { s with lock := .free }.setCall k c

def hold (s : Session) (thread : Bool) : Session :=
  match s.lock with
  | .free => s
  | .starting k left (some id) count =>
    { s.enlist id with lock := .starting k left none (count + 1) }
  | .starting k [] none count =>
    { s with engine := s.engine.note (.startedProducers count) }.release k (.started count)
  | .starting k (n :: left) none count =>
    if (s.engine.feeder n.id).running then { s with lock := .starting k left none count }
    else if thread then { s.begin n with lock := .starting k left (some n.id) count }
    else
      { s with
        engine := s.engine.setFeeder n.id { s.engine.feeder n.id with unjoined := none } }.release k
          .refused
  | .stopping k [] alive => s.release k (.stopped alive)
  | .stopping k (id :: left) alive => { s.request id with lock := .stopping k left alive }

def work (s : Session) (i : Nat) (messages : List Message) (progress : Producer.Progress) :
    Session :=
  match s.engine.loops[i]? with
  | some loop =>
    if Engine.hasEnded loop.progress then s
    else
      let n := loop.producer
      { s with
        engine := { s.engine with
          ruleset := messages.foldl (fun rs m => rs.publish n.topic (n.stamp m)) s.engine.ruleset
          loops := s.engine.loops.set i { loop with progress }
          journal := s.engine.journal ++ Engine.endEvents n progress } }
  | none => s

def ask (s : Session) (i : Nat) : Session :=
  { s with signal := Function.update s.signal i (s.signal i).ask.2 }

def leave (s : Session) (i : Nat) : Session :=
  match s.engine.loops[i]? with
  | some loop =>
    if Engine.hasEnded loop.progress && !s.gone i then
      let id := loop.producer.id
      { s with
        engine := s.engine.setFeeder id { s.engine.feeder id with running := false }
        gone := Function.update s.gone i true }
    else s
  | none => s

def act (s : Session) : Act → Session
  | .make k order => s.make k order
  | .proceed k => s.proceed k
  | .hold thread => s.hold thread
  | .work i messages progress => s.work i messages progress
  | .ask i => s.ask i
  | .leave i => s.leave i

/-- The session after acts of anybody. -/
def run (s : Session) (acts : List Act) : Session := acts.foldl act s

def after (rs : Ruleset) (acts : List Act) : Session := (opened rs).run acts

@[simp] theorem run_nil (s : Session) : s.run [] = s := rfl

@[simp] theorem run_cons (s : Session) (a : Act) (acts : List Act) :
    s.run (a :: acts) = (s.act a).run acts := rfl

/-- What every act preserves holds after a run. -/
theorem run_induction {P : Session → Prop} (hact : ∀ s a, P s → P (act s a)) {s : Session}
    (h : P s) (acts : List Act) : P (s.run acts) := by
  induction acts generalizing s with
  | nil => exact h
  | cons a acts ih => exact ih (hact s a h)

theorem run_append (s : Session) (acts more : List Act) :
    s.run (acts ++ more) = (s.run acts).run more := List.foldl_append

end Session
end RuleGraph
