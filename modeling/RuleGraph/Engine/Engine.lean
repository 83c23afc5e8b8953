import RuleGraph.Graph.Ruleset

/-!
# The engine

The engine starts the producers of a ruleset, stops them and waits for them. Each start of a
producer begins a control loop of its own. A loop goes on by itself until it has to wait; a stop
that is requested ends all its waits.
-/
namespace RuleGraph

/-- A run of a producer. -/
structure Loop where
  producer : ProducerNode
  progress : Producer.Progress
  stopRequested : Bool

/-- What is kept for a producer: whether a loop of it runs, the loop that can still be told to
stop, and the loop that nobody has waited for. -/
structure Feeder where
  running : Bool
  stoppable : Option Nat
  unjoined : Option Nat
  deriving DecidableEq, Repr

def Feeder.idle : Feeder := ⟨false, none, none⟩

structure Engine where
  ruleset : Ruleset
  /-- All loops ever begun, in order. -/
  loops : List Loop
  feeders : List (NodeId × Feeder)
  /-- Producers started by the engine and not waited for since. -/
  started : List NodeId
  journal : List Event
  /-- The time that messages tell. -/
  now : String

namespace Engine

/-- More moves than a producer makes that comes to its end. -/
def ampleMoves : Nat := Nat.pow 10 6

def new (ruleset : Ruleset) : Engine := ⟨ruleset, [], [], [], [], ""⟩

/-- Compile all files into a fresh ruleset. Gives what was told on the way, too, which tells the
count of rules only if all is well. -/
def ofFiles (registry : Registry) (config : Config) (files : ParsedFiles) :
    Except GraphError Engine × List Event :=
  match (Ruleset.new registry config).compileAll files with
  | (.error e, rs) => (.error e, rs.journal)
  | (.ok (), rs) =>
    let rs := rs.note (.compiled rs.rules.length rs.roots.length files.length)
    (.ok (new rs), rs.journal)

def describe (e : Engine) : String :=
  "Orchestrator \x7b ruleset: " ++ e.ruleset.describe ++ ", .. \x7d"

def feeder (e : Engine) (id : NodeId) : Feeder :=
  ((e.feeders.find? fun f => f.1 = id).map Prod.snd).getD .idle

def setFeeder (e : Engine) (id : NodeId) (f : Feeder) : Engine :=
  { e with feeders := (id, f) :: e.feeders.filter fun g => g.1 ≠ id }

def note (e : Engine) (event : Event) : Engine := { e with journal := e.journal ++ [event] }

/-- What a loop tells when it ends. A panic is told by who waits for the loop. -/
def endEvents (n : ProducerNode) : Producer.Progress → List Event
  | .returned => [.producerStopped n.topic n.rule]
  | .failed e => [.producerFailed n.topic n.rule e]
  | _ => []

def hasEnded : Producer.Progress → Bool
  | .waiting _ => false
  | _ => true

/-- Let a loop go on from a move of its producer, and publish what it emits. -/
def goOn (e : Engine) (i : Nat) (loop : Loop) (patient : Bool) (start : Nat) : Engine :=
  let n := loop.producer
  let (ms, progress) := n.program.run e.now loop.stopRequested patient ampleMoves start
  let rs := ms.foldl (fun rs m => rs.publish n.topic (n.stamp m)) e.ruleset
  let loops := e.loops.set i { loop with progress := progress }
  let e : Engine := { e with ruleset := rs, loops := loops }
  if hasEnded progress then
    let e : Engine := { e with journal := e.journal ++ endEvents n progress }
    e.setFeeder n.id { e.feeder n.id with running := false }
  else e

/-- Let a loop go on to its next wait, or to its end if it is patient or told to stop. -/
def advance (e : Engine) (patient : Bool) (i : Nat) : Engine :=
  match e.loops[i]? with
  | none => e
  | some loop =>
    match loop.progress with
    | .waiting move => e.goOn i loop patient move
    | _ => e

/-- How long a loop pauses where it stands, and the move that follows. -/
def pause? (e : Engine) (i : Nat) : Option (Duration × Nat) :=
  match e.loops[i]? with
  | none => none
  | some loop =>
    match loop.progress with
    | .waiting move =>
      match loop.producer.program.move move with
      | .pause time onTime _ => some (time, onTime)
      | _ => none
    | _ => none

/-- Let a loop go on that has paused long enough. -/
def wake (e : Engine) (i : Nat) : Engine :=
  match e.loops[i]?, e.pause? i with
  | some loop, some (_, onTime) => e.goOn i loop false onTime
  | _, _ => e

/-- Begin a loop of a producer, which stands at the producer's first move; gives the number of the
loop. No loop begins while one is running. -/
def beginLoop (e : Engine) (n : ProducerNode) : Option Nat × Engine :=
  if (e.feeder n.id).running then (none, e)
  else
    let i := e.loops.length
    let e : Engine := { e with loops := e.loops ++ [⟨n, .waiting n.program.start, false⟩] }
    (some i, (e.setFeeder n.id ⟨true, some i, some i⟩).note (.producerStarted n.topic n.rule))

/-- Begin a loop of a producer and let it go on; false if one is running. -/
def start (e : Engine) (n : ProducerNode) : Bool × Engine :=
  match e.beginLoop n with
  | (none, e) => (false, e)
  | (some i, e) => (true, e.advance false i)

/-- Tell the loop of a producer to stop, if it was not told yet. -/
def stop (e : Engine) (id : NodeId) : Engine :=
  let f := e.feeder id
  match f.stoppable with
  | none => e
  | some i =>
    let loops := e.loops.modify i fun loop => { loop with stopRequested := true }
    { e with loops := loops }.setFeeder id { f with stoppable := none }

/-- Wait until the loop of a producer has come to its end. -/
def join (e : Engine) (n : NodeId) : Engine :=
  let f := e.feeder n
  match f.unjoined with
  | none => e
  | some i =>
    let e := (e.setFeeder n { f with unjoined := none }).advance true i
    match e.loops[i]? with
    | some ⟨producer, .panicked, _⟩ => e.note (.producerPanicked producer.topic)
    | _ => e

/-- Start producers that are not running; gives how many were started. -/
def startEach : List ProducerNode → Engine → Nat × Engine
  | [], e => (0, e)
  | n :: rest, e =>
    match e.start n with
    | (false, e) => startEach rest e
    | (true, e) =>
      let started := if e.started.contains n.id then e.started else e.started ++ [n.id]
      let (count, e) := startEach rest { e with started := started }
      (count + 1, e)

def rootProducers (e : Engine) : List ProducerNode :=
  e.ruleset.roots.filterMap CompiledRule.producer?

/-- Start every producer that is not running; gives how many were started. -/
def startAll (e : Engine) : Nat × Engine :=
  let (count, e) := startEach e.rootProducers e
  (count, e.note (.startedProducers count))

def stopAll (e : Engine) : Engine := e.started.foldl stop e

/-- Wait for all producers that the engine started. -/
def waitAll (e : Engine) : Engine :=
  let e := e.started.foldl join e
  { e with started := e.started.filter fun id => (e.feeder id).running }

def isRunning (e : Engine) : Bool := e.started.any fun id => (e.feeder id).running

def settle (e : Engine) : Engine := { e with ruleset := e.ruleset.settle }

end Engine
end RuleGraph
