import RuleGraph.Journal
import RuleGraph.Node.Message

/-!
# The bus

Subscribers of a topic get the messages published on it. Each topic with subscribers has a queue
of its own: messages are handed out in the order in which they were published, and each of them to
the subscribers in the order in which these came. What a subscriber publishes meanwhile is queued
in turn. A bus that is shut down takes nothing more, but what is queued is still handed out.

A queue is handed out by a thread, which is started for the first subscriber of its topic. The
system may refuse it.
-/
namespace RuleGraph

/-- What the system answers when threads are to be started: it starts as many as are asked for, or
some number of them and then no more. -/
inductive Threads
  | ample
  | few (left : Nat) (reason : String)
  deriving DecidableEq, Repr

/-- The answer to one request, with those that are left, or the reason why there is no thread. -/
def Threads.start : Threads → Except String Threads
  | .ample => .ok .ample
  | .few 0 reason => .error reason
  | .few (left + 1) reason => .ok (.few left reason)

/-- Why a subscriber was not taken. -/
inductive Refusal
  | closed
  | noThread (reason : String)
  /-- This is no refusal, but a panic: the name of a thread may hold no NUL. -/
  | badName
  deriving DecidableEq, Repr

/-- What a subscriber does with a message. One that panics has published what stands here. -/
structure Handling where
  published : List (Topic × Message)
  events : List Event
  panicked : Bool
  deriving Repr

/-- The queue of a topic and its subscribers, who come in order. -/
structure Channel (σ : Type) where
  topic : Topic
  waiting : List Message
  subscribers : List σ
  deriving Repr

/-- A message handed to a subscriber. -/
structure Delivery (σ : Type) where
  topic : Topic
  subscriber : σ
  message : Message
  deriving Repr

/-- The channels in the order of their first subscribers, with a record of all that was published
and delivered. -/
structure Bus (σ : Type) where
  channels : List (Channel σ)
  closed : Bool
  published : List (Topic × Message)
  delivered : List (Delivery σ)
  events : List Event
  deriving Repr

namespace Bus

variable {σ : Type}

def empty : Bus σ := ⟨[], false, [], [], []⟩

def channel? (bus : Bus σ) (topic : Topic) : Option (Channel σ) :=
  bus.channels.find? fun c => c.topic = topic

/-- Rewrite the channel of a topic. -/
def update (bus : Bus σ) (topic : Topic) (f : Channel σ → Channel σ) : Bus σ :=
  { bus with channels := bus.channels.map fun c => if c.topic = topic then f c else c }

/-- Add a subscriber behind those of the topic, which has a queue from now on. -/
def join (bus : Bus σ) (topic : Topic) (subscriber : σ) : Bus σ :=
  if (bus.channel? topic).isSome then
    bus.update topic fun c => { c with subscribers := c.subscribers ++ [subscriber] }
  else { bus with channels := bus.channels ++ [⟨topic, [], [subscriber]⟩] }

/-- Take a subscriber, and start a thread for the topic if it is the first one there. The thread is
named after the topic. A closed bus takes none. -/
def subscribe (threads : Threads) (bus : Bus σ) (topic : Topic) (subscriber : σ) :
    Except Refusal (Bus σ × Threads) :=
  if bus.closed then .error .closed
  else if (bus.channel? topic).isSome then .ok (bus.join topic subscriber, threads)
  else if '\x00' ∈ topic.text.toList then .error .badName
  else
    match threads.start with
    | .error reason => .error (.noThread reason)
    | .ok threads => .ok (bus.join topic subscriber, threads)

/-- Queue a message for the subscribers of a topic. A closed bus drops it. -/
def publish (bus : Bus σ) (topic : Topic) (m : Message) : Bus σ :=
  if bus.closed then bus
  else
    { bus.update topic fun c => { c with waiting := c.waiting ++ [m] } with
      published := bus.published ++ [(topic, m)] }

def publishAll (bus : Bus σ) (ms : List (Topic × Message)) : Bus σ :=
  ms.foldl (fun b m => b.publish m.1 m.2) bus

def note (bus : Bus σ) (events : List Event) : Bus σ :=
  { bus with events := bus.events ++ events }

def subscribers (bus : Bus σ) (topic : Topic) : List σ :=
  if bus.closed then [] else ((bus.channel? topic).map Channel.subscribers).getD []

def topicCount (bus : Bus σ) : Nat := if bus.closed then 0 else bus.channels.length

def shutdown (bus : Bus σ) : Bus σ := { bus with closed := true }

/-- Hand a message to one subscriber. A panic drops the message for this subscriber only. -/
def deliver (handle : σ → Message → Handling) (topic : Topic) (m : Message) (bus : Bus σ)
    (subscriber : σ) : Bus σ :=
  let h := handle subscriber m
  let bus : Bus σ := { bus with delivered := bus.delivered ++ [⟨topic, subscriber, m⟩] }
  let panic : List Event := if h.panicked then [.handlerPanicked topic] else []
  (bus.note (h.events ++ panic)).publishAll h.published

/-- Hand the next message of a topic to its subscribers, one after the other. -/
def dispatch (handle : σ → Message → Handling) (topic : Topic) (bus : Bus σ) : Bus σ :=
  match bus.channel? topic with
  | some ⟨_, m :: rest, subscribers⟩ =>
    subscribers.foldl (deliver handle topic m)
      (bus.update topic fun c => { c with waiting := rest })
  | _ => bus

/-- A topic whose queue is not empty. -/
def busy? (bus : Bus σ) : Option Topic :=
  (bus.channels.find? fun c => !c.waiting.isEmpty).map Channel.topic

def isAtRest (bus : Bus σ) : Bool := bus.channels.all fun c => c.waiting.isEmpty

/-- Dispatch messages until all queues are empty; the number bounds the steps. -/
def settle (handle : σ → Message → Handling) : Nat → Bus σ → Bus σ
  | 0, bus => bus
  | steps + 1, bus =>
    match bus.busy? with
    | none => bus
    | some topic => settle handle steps (bus.dispatch handle topic)

/-- More steps than a graph of rules takes to come to rest. -/
def ampleSteps : Nat := Nat.pow 10 9

@[simp] theorem closed_join (bus : Bus σ) (topic : Topic) (subscriber : σ) :
    (bus.join topic subscriber).closed = bus.closed := by
  unfold join
  split <;> rfl

/-- A subscriber that is taken joins an open bus. -/
theorem of_subscribe {threads threads' : Threads} {bus bus' : Bus σ} {topic : Topic}
    {subscriber : σ} (h : bus.subscribe threads topic subscriber = .ok (bus', threads')) :
    bus.closed = false ∧ bus' = bus.join topic subscriber := by
  unfold subscribe at h
  split at h
  · cases h
  · rename_i hopen
    refine ⟨Bool.eq_false_iff.mpr hopen, ?_⟩
    split at h
    · cases h
      rfl
    · split at h
      · cases h
      · split at h
        · cases h
        · cases h
          rfl

theorem publish_of_closed {bus : Bus σ} (h : bus.closed = true) (topic : Topic) (m : Message) :
    bus.publish topic m = bus := by simp [publish, h]

theorem settle_of_isAtRest {handle : σ → Message → Handling} {bus : Bus σ}
    (h : bus.isAtRest = true) (steps : Nat) : bus.settle handle steps = bus := by
  cases steps with
  | zero => rfl
  | succ n =>
    have : bus.busy? = none := by
      simp only [busy?, Option.map_eq_none_iff, List.find?_eq_none]
      simpa [isAtRest] using h
    simp [settle, this]

end Bus
end RuleGraph
