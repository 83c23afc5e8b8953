import Mathlib.Logic.Function.Basic
import RuleGraph.Proofs.Traffic.Queues

/-!
# An exchange of messages

Anybody may subscribe, publish and shut the bus down at any time, subscribers at work among them.
Meanwhile the dispatcher of each topic takes one message after the other, looks who is subscribed,
and calls these subscribers one by one. An exchange is a bus with its dispatchers at work and with
a record of what happened so far. `Orderly` says what the record has to do with the bus; it holds
whatever is done, and in whatever order.
-/
namespace RuleGraph

namespace Bus

variable {σ : Type} {bus : Bus σ} {topic t : Topic} {m : Message} {n : σ}

/-- The messages that wait on a topic. -/
def waitingOn (bus : Bus σ) (topic : Topic) : List Message :=
  ((bus.channel? topic).map Channel.waiting).getD []

/-- Who is on the list of a topic, on a bus that was shut down as well. -/
def listed (bus : Bus σ) (topic : Topic) : List σ :=
  ((bus.channel? topic).map Channel.subscribers).getD []

/-- Every queue has subscribers. -/
def Peopled (bus : Bus σ) : Prop := ∀ t, bus.listed t = [] → bus.channel? t = none

theorem topic_of_channel? {c : Channel σ} (h : bus.channel? t = some c) : c.topic = t :=
  (channel?_eq_some h).2

/-- What is done to the queue of a topic is done to its channel only. -/
theorem channel?_requeue (bus : Bus σ) (topic : Topic) (queue : List Message → List Message)
    (t : Topic) :
    (bus.update topic fun c => { c with waiting := queue c.waiting }).channel? t =
      (bus.channel? t).map fun c =>
        if c.topic = topic then { c with waiting := queue c.waiting } else c :=
  channel?_update bus _ fun _ => rfl

theorem channel?_join (bus : Bus σ) (topic : Topic) (n : σ) (t : Topic) :
    (bus.join topic n).channel? t =
      if t = topic then some ⟨topic, bus.waitingOn topic, bus.listed topic ++ [n]⟩
      else bus.channel? t := by
  unfold join
  split
  · rename_i hsome
    obtain ⟨c, hc⟩ := Option.isSome_iff_exists.mp hsome
    let add (c : Channel σ) : Channel σ := { c with subscribers := c.subscribers ++ [n] }
    rw [channel?_update bus add fun _ => rfl]
    by_cases heq : t = topic
    · subst heq
      simp [hc, waitingOn, listed, topic_of_channel? hc, add]
    · cases hd : bus.channel? t with
      | none => simp [heq]
      | some d => simp [heq, topic_of_channel? hd]
  · rename_i hnone
    have hnone : bus.channel? topic = none := by simpa using hnone
    have hfind : bus.channels.find? (fun c => c.topic = topic) = none := hnone
    by_cases heq : t = topic
    · subst heq
      simp only [waitingOn, listed, hnone]
      simp [channel?, List.find?_append, hfind]
    · simp [channel?, List.find?_append, heq, Ne.symm heq]

theorem waitingOn_join (bus : Bus σ) (topic : Topic) (n : σ) (t : Topic) :
    (bus.join topic n).waitingOn t = bus.waitingOn t := by
  rw [waitingOn, channel?_join]
  split
  · rename_i heq
    subst heq
    rfl
  · rfl

theorem listed_join (bus : Bus σ) (topic : Topic) (n : σ) (t : Topic) :
    (bus.join topic n).listed t = bus.listed t ++ if topic = t then [n] else [] := by
  rw [listed, channel?_join]
  by_cases heq : t = topic
  · subst heq
    simp
  · simp [heq, Ne.symm heq, listed]

theorem Peopled.join (h : bus.Peopled) (topic : Topic) (n : σ) : (bus.join topic n).Peopled := by
  intro t hempty
  rw [listed_join, List.append_eq_nil_iff] at hempty
  have hne : t ≠ topic := by
    rintro rfl
    simp at hempty
  rw [channel?_join, if_neg hne]
  exact h t hempty.1

theorem listed_update (queue : List Message → List Message) (t : Topic) :
    (bus.update topic fun c => { c with waiting := queue c.waiting }).listed t = bus.listed t := by
  rw [listed, channel?_requeue, listed, Option.map_map]
  congr 2
  funext c
  simp only [Function.comp_apply]
  split <;> rfl

theorem channel?_publish (bus : Bus σ) (topic : Topic) (m : Message) (t : Topic) :
    (bus.publish topic m).channel? t =
      if bus.closed then bus.channel? t
      else (bus.update topic fun c => { c with waiting := c.waiting ++ [m] }).channel? t := by
  rw [publish]
  split <;> rfl

theorem listed_publish (bus : Bus σ) (topic : Topic) (m : Message) (t : Topic) :
    (bus.publish topic m).listed t = bus.listed t := by
  rw [listed, channel?_publish]
  split
  · rfl
  · exact listed_update (· ++ [m]) t

theorem closed_publish (bus : Bus σ) (topic : Topic) (m : Message) :
    (bus.publish topic m).closed = bus.closed := by
  rw [publish]
  split <;> rfl

/-- A message that is published waits if the bus is open and somebody is subscribed. -/
theorem Peopled.waitingOn_publish (h : bus.Peopled) (topic : Topic) (m : Message) (t : Topic) :
    (bus.publish topic m).waitingOn t =
      bus.waitingOn t ++
        if topic = t ∧ bus.closed = false ∧ bus.listed t ≠ [] then [m] else [] := by
  rw [waitingOn, channel?_publish]
  cases hclosed : bus.closed with
  | true => simp [waitingOn]
  | false =>
    simp only [Bool.false_eq_true, if_false, true_and]
    rw [channel?_requeue bus topic (· ++ [m])]
    cases hc : bus.channel? t with
    | none => simp [waitingOn, listed, hc]
    | some c =>
      have hlisted : bus.listed t ≠ [] := fun hempty => by simp [h t hempty] at hc
      have htopic := topic_of_channel? hc
      by_cases heq : topic = t
      · simp [waitingOn, hc, hlisted, htopic, heq]
      · simp [waitingOn, hc, htopic, heq, Ne.symm heq]

theorem Peopled.publish (h : bus.Peopled) (topic : Topic) (m : Message) :
    (bus.publish topic m).Peopled := by
  intro t hempty
  have hnone := h t (by rwa [listed_publish] at hempty)
  rw [channel?_publish, channel?_requeue bus topic (· ++ [m]), hnone]
  simp

/-- Taking the next message of a topic leaves what waits behind it. -/
theorem waitingOn_take (bus : Bus σ) (topic : Topic) (rest : List Message) (t : Topic)
    (h : bus.channel? topic ≠ none) :
    (bus.update topic fun c => { c with waiting := rest }).waitingOn t =
      if t = topic then rest else bus.waitingOn t := by
  rw [waitingOn, channel?_requeue bus topic fun _ => rest]
  by_cases heq : t = topic
  · subst heq
    obtain ⟨c, hc⟩ := Option.ne_none_iff_exists'.mp h
    simp [hc, topic_of_channel? hc]
  · cases hc : bus.channel? t with
    | none => simp [waitingOn, hc, heq]
    | some c => simp [waitingOn, hc, heq, topic_of_channel? hc]

end Bus

/-- What happens at an exchange. Subscribers of a topic are numbered in the order in which they
came. -/
inductive Occurrence (σ : Type)
  | subscribed (topic : Topic) (subscriber : σ)
  | published (topic : Topic) (m : Message)
  | shutDown
  /-- The dispatcher of a topic looks to whom a message goes. -/
  | dispatched (topic : Topic) (m : Message)
  | called (topic : Topic) (number : Nat) (m : Message)
  | returned (topic : Topic) (number : Nat) (m : Message)

/-- Where the dispatcher of a topic stands. -/
inductive Stage (σ : Type)
  | idle
  /-- A message is taken from the queue. -/
  | holding (m : Message)
  /-- The message goes to those who were found to be subscribed; the first `done` have had it. -/
  | handing (m : Message) (found : List σ) (done : Nat)
  /-- The next subscriber is at work, with messages that it has still to publish. -/
  | calling (m : Message) (found : List σ) (done : Nat) (unpublished : List (Topic × Message))

structure Exchange (σ : Type) where
  bus : Bus σ
  stage : Topic → Stage σ
  /-- What happened so far, the latest first. -/
  past : List (Occurrence σ)

/-- A subscriber that does nothing. -/
def Handling.silent : Handling := ⟨[], [], false⟩

namespace Exchange

/-- Who does what next. -/
inductive Act (σ : Type)
  /-- If a thread is to be started for the topic, this is what the system answers. -/
  | subscribe (threads : Threads) (topic : Topic) (subscriber : σ)
  | publish (topic : Topic) (m : Message)
  | shutdown
  /-- The dispatcher of a topic takes its next step. If it calls a subscriber, this is what the
  subscriber does. -/
  | work (topic : Topic) (answer : Handling)

variable {σ : Type}

def opened : Exchange σ := ⟨.empty, fun _ => .idle, []⟩

/-- A subscriber that is refused changes nothing. -/
def subscribe (x : Exchange σ) (threads : Threads) (topic : Topic) (subscriber : σ) :
    Exchange σ :=
  match x.bus.subscribe threads topic subscriber with
  | .error _ => x
  | .ok (bus, _) => { x with bus := bus, past := .subscribed topic subscriber :: x.past }

def publish (x : Exchange σ) (topic : Topic) (m : Message) : Exchange σ :=
  { x with bus := x.bus.publish topic m, past := .published topic m :: x.past }

def shutdown (x : Exchange σ) : Exchange σ :=
  { x with bus := x.bus.shutdown, past := .shutDown :: x.past }

def setStage (x : Exchange σ) (topic : Topic) (stage : Stage σ) : Exchange σ :=
  { x with stage := Function.update x.stage topic stage }

def take (x : Exchange σ) (topic : Topic) : Exchange σ :=
  match x.bus.channel? topic with
  | some ⟨_, m :: rest, _⟩ =>
    { x with bus := x.bus.update topic fun c => { c with waiting := rest } }.setStage topic
      (.holding m)
  | _ => x

def look (x : Exchange σ) (topic : Topic) (m : Message) : Exchange σ :=
  { x with past := .dispatched topic m :: x.past }.setStage topic
    (.handing m (x.bus.listed topic) 0)

def call (x : Exchange σ) (topic : Topic) (m : Message) (found : List σ) (done : Nat)
    (subscriber : σ) (answer : Handling) : Exchange σ :=
  { x with
    bus := x.bus.hand (fun _ _ => answer) topic m subscriber
    past := .called topic done m :: x.past }.setStage topic
      (.calling m found done answer.published)

def back (x : Exchange σ) (topic : Topic) (m : Message) (found : List σ) (done : Nat) :
    Exchange σ :=
  { x with past := .returned topic done m :: x.past }.setStage topic (.handing m found (done + 1))

/-- The dispatcher of a topic takes a step, if it has something to do. -/
def work (x : Exchange σ) (topic : Topic) (answer : Handling) : Exchange σ :=
  match x.stage topic with
  | .idle => x.take topic
  | .holding m => x.look topic m
  | .handing m found done =>
    match found[done]? with
    | some subscriber => x.call topic m found done subscriber answer
    | none => x.setStage topic .idle
  | .calling m found done [] => x.back topic m found done
  | .calling m found done (p :: ps) =>
    (x.publish p.1 p.2).setStage topic (.calling m found done ps)

def act (x : Exchange σ) : Act σ → Exchange σ
  | .subscribe threads topic subscriber => x.subscribe threads topic subscriber
  | .publish topic m => x.publish topic m
  | .shutdown => x.shutdown
  | .work topic answer => x.work topic answer

/-- The exchange after acts of anybody. -/
def run (x : Exchange σ) (acts : List (Act σ)) : Exchange σ := acts.foldl act x

def after (acts : List (Act σ)) : Exchange σ := opened.run acts

@[simp] theorem run_nil (x : Exchange σ) : x.run [] = x := rfl

@[simp] theorem run_cons (x : Exchange σ) (a : Act σ) (acts : List (Act σ)) :
    x.run (a :: acts) = (x.act a).run acts := rfl

theorem run_append (x : Exchange σ) (acts more : List (Act σ)) :
    x.run (acts ++ more) = (x.run acts).run more := List.foldl_append

/-! ### The record -/

/-- The subscribers of a topic in the order in which they came. -/
def subscribersOf (t : Topic) : List (Occurrence σ) → List σ
  | [] => []
  | .subscribed topic n :: past => subscribersOf t past ++ if topic = t then [n] else []
  | _ :: past => subscribersOf t past

def isShut : List (Occurrence σ) → Bool
  | [] => false
  | .shutDown :: _ => true
  | _ :: past => isShut past

/-- A topic has a queue from its first subscriber to the shutdown. -/
def hasQueue (t : Topic) (past : List (Occurrence σ)) : Bool :=
  !isShut past && !(subscribersOf t past).isEmpty

/-- The messages published on a topic while it had a queue. -/
def accepted (t : Topic) : List (Occurrence σ) → List Message
  | [] => []
  | .published topic m :: past =>
    accepted t past ++ if topic = t ∧ hasQueue t past then [m] else []
  | _ :: past => accepted t past

def dispatched (t : Topic) : List (Occurrence σ) → List Message
  | [] => []
  | .dispatched topic m :: past => dispatched t past ++ if topic = t then [m] else []
  | _ :: past => dispatched t past

/-- The messages dispatched on a topic after its subscriber of this number had come. -/
def dispatchedSince (t : Topic) (number : Nat) : List (Occurrence σ) → List Message
  | [] => []
  | .dispatched topic m :: past =>
    dispatchedSince t number past ++
      if topic = t ∧ number < (subscribersOf t past).length then [m] else []
  | _ :: past => dispatchedSince t number past

/-- The messages that the subscriber of this number was called with. -/
def invoked (t : Topic) (number : Nat) : List (Occurrence σ) → List Message
  | [] => []
  | .called topic i m :: past =>
    invoked t number past ++ if topic = t ∧ i = number then [m] else []
  | _ :: past => invoked t number past

/-- The calls of the subscribers of a topic, and their ends. -/
def calls (t : Topic) : List (Occurrence σ) → List (Occurrence σ)
  | [] => []
  | .called topic i m :: past => calls t past ++ if topic = t then [.called topic i m] else []
  | .returned topic i m :: past => calls t past ++ if topic = t then [.returned topic i m] else []
  | _ :: past => calls t past

/-- Calls of `count` subscribers one after another, from the one of number `first`, each of which
comes back before the next is called. -/
def turns (t : Topic) (m : Message) (first count : Nat) : List (Occurrence σ) :=
  (List.range' first count).flatMap fun number => [.called t number m, .returned t number m]

/-- The calls that are due for the messages dispatched on a topic: for each of them, those who were
subscribed when it was dispatched, in the order in which they came. -/
def rounds (t : Topic) : List (Occurrence σ) → List (Occurrence σ)
  | [] => []
  | .dispatched topic m :: past =>
    rounds t past ++ if topic = t then turns t m 0 (subscribersOf t past).length else []
  | _ :: past => rounds t past

/-- A delivery that is a call of a subscriber. -/
def Makes (past : List (Occurrence σ)) (d : Delivery σ) : Occurrence σ → Prop
  | .called topic number m =>
    d.topic = topic ∧ d.message = m ∧ (subscribersOf topic past)[number]? = some d.subscriber
  | _ => False

/-- All calls, the earliest first. -/
def allCalls : List (Occurrence σ) → List (Occurrence σ)
  | [] => []
  | .called topic i m :: past => allCalls past ++ [.called topic i m]
  | _ :: past => allCalls past

theorem turns_succ (t : Topic) (m : Message) (first count : Nat) :
    (turns t m first (count + 1) : List (Occurrence σ)) =
      .called t first m :: .returned t first m :: turns t m (first + 1) count := by
  simp [turns, List.range'_succ]

end Exchange

namespace Stage

variable {σ : Type}

def held : Stage σ → List Message
  | .holding m => [m]
  | _ => []

def found : Stage σ → List σ
  | .handing _ found _ => found
  | .calling _ found _ _ => found
  | _ => []

/-- The calls that a dispatcher has still to make or to bring to an end. -/
def left (t : Topic) : Stage σ → List (Occurrence σ)
  | .handing m found done => Exchange.turns t m done (found.length - done)
  | .calling m found done _ =>
    .returned t done m :: Exchange.turns t m (done + 1) (found.length - (done + 1))
  | _ => []

end Stage

namespace Exchange

variable {σ : Type} {x : Exchange σ}

/-- A topic is served in order: what it accepted was dispatched, or is held by the dispatcher, or
waits, and what was dispatched was handed to those subscribed, or is about to be. -/
structure Served (x : Exchange σ) (t : Topic) : Prop where
  found : (x.stage t).found <+: subscribersOf t x.past
  queue : accepted t x.past = dispatched t x.past ++ (x.stage t).held ++ x.bus.waitingOn t
  rounds : calls t x.past ++ (x.stage t).left t = rounds t x.past

/-- The record agrees with the bus and its dispatchers. -/
structure Orderly (x : Exchange σ) : Prop where
  closed : x.bus.closed = isShut x.past
  peopled : x.bus.Peopled
  listed : ∀ t, x.bus.listed t = subscribersOf t x.past
  served : ∀ t, x.Served t
  delivered : List.Forall₂ (Makes x.past) x.bus.delivered (allCalls x.past)

theorem orderly_opened : (opened : Exchange σ).Orderly where
  closed := rfl
  peopled _ _ := rfl
  listed _ := rfl
  served _ := ⟨List.prefix_refl [], rfl, rfl⟩
  delivered := .nil

theorem Orderly.hasQueue_iff (h : x.Orderly) (t : Topic) :
    hasQueue t x.past = true ↔ x.bus.closed = false ∧ x.bus.listed t ≠ [] := by
  simp [hasQueue, h.closed, h.listed]

theorem Orderly.subscribe (h : x.Orderly) (threads : Threads) (topic : Topic) (n : σ) :
    (x.subscribe threads topic n).Orderly := by
  unfold Exchange.subscribe
  split
  · exact h
  rename_i bus _ hbus
  obtain ⟨hopen, rfl⟩ := Bus.of_subscribe hbus
  refine ⟨?_, h.peopled.join topic n, fun t => ?_, fun t => ⟨?_, ?_, ?_⟩, ?_⟩
  · simp [isShut, ← h.closed]
  · simp [Bus.listed_join, subscribersOf, h.listed]
  · exact (h.served t).found.trans (List.prefix_append _ _)
  · simpa [accepted, dispatched, Bus.waitingOn_join] using (h.served t).queue
  · simpa [calls, Exchange.rounds] using (h.served t).rounds
  · simp only [Bus.delivered_join, allCalls]
    refine h.delivered.imp fun d o hmakes => ?_
    cases o with
    | called t i m =>
      obtain ⟨htopic, hmessage, hget⟩ := hmakes
      refine ⟨htopic, hmessage, ?_⟩
      rw [subscribersOf, List.getElem?_append_left (List.getElem?_eq_some_iff.mp hget).1, hget]
    | _ => exact hmakes

theorem Orderly.publish (h : x.Orderly) (topic : Topic) (m : Message) :
    (x.publish topic m).Orderly := by
  refine ⟨(Bus.closed_publish _ _ _).trans h.closed, h.peopled.publish topic m, fun t => ?_,
    fun t => ⟨(h.served t).found, ?_, (h.served t).rounds⟩, ?_⟩
  · exact (Bus.listed_publish _ _ _ t).trans (h.listed t)
  · have hif : (topic = t ∧ hasQueue t x.past = true) ↔
        topic = t ∧ x.bus.closed = false ∧ x.bus.listed t ≠ [] := by rw [h.hasQueue_iff]
    simp only [Exchange.publish, accepted, dispatched, h.peopled.waitingOn_publish,
      (h.served t).queue, hif, List.append_assoc]
  · simp only [Exchange.publish, Bus.delivered_publish]
    exact h.delivered

theorem Orderly.shutdown (h : x.Orderly) : x.shutdown.Orderly :=
  ⟨rfl, h.peopled, h.listed, fun t => ⟨(h.served t).found, (h.served t).queue, (h.served t).rounds⟩,
    h.delivered⟩

/-! ### Steps of a dispatcher -/

/-- What the dispatcher of a topic adds to the past. -/
inductive Noted (topic : Topic) (past : List (Occurrence σ)) : List (Occurrence σ) → Prop
  | nothing : Noted topic past past
  | dispatched (m : Message) : Noted topic past (.dispatched topic m :: past)
  | called (number : Nat) (m : Message) : Noted topic past (.called topic number m :: past)
  | returned (number : Nat) (m : Message) : Noted topic past (.returned topic number m :: past)

/-- A dispatcher serves its own topic only. -/
theorem Served.elsewhere {t topic : Topic} (h : x.Served t) (hne : t ≠ topic) {bus : Bus σ}
    (hwaiting : bus.waitingOn t = x.bus.waitingOn t) {past : List (Occurrence σ)}
    (hpast : Noted topic x.past past) (stage : Stage σ) :
    ({ x with bus, past }.setStage topic stage).Served t := by
  have hstage : Function.update x.stage topic stage t = x.stage t := Function.update_of_ne hne ..
  constructor <;> simp only [Exchange.setStage, hstage, hwaiting]
  · cases hpast <;> exact h.found
  · cases hpast <;> simpa [accepted, dispatched, hne.symm] using h.queue
  · cases hpast <;> simpa [calls, Exchange.rounds, hne.symm] using h.rounds

/-- What has to be seen of a step of a dispatcher: that it serves its topic, and records its
calls. -/
theorem Orderly.step (h : x.Orderly) {topic : Topic} {bus : Bus σ} {past : List (Occurrence σ)}
    {stage : Stage σ} (hpast : Noted topic x.past past) (hclosed : bus.closed = x.bus.closed)
    (hpeopled : bus.Peopled) (hlisted : ∀ t, bus.listed t = x.bus.listed t)
    (hwaiting : ∀ t, t ≠ topic → bus.waitingOn t = x.bus.waitingOn t)
    (hdelivered : List.Forall₂ (Makes past) bus.delivered (allCalls past))
    (hserved : ({ x with bus, past }.setStage topic stage).Served topic) :
    ({ x with bus, past }.setStage topic stage).Orderly := by
  have hsubscribers (t : Topic) : subscribersOf t past = subscribersOf t x.past := by
    cases hpast <;> rfl
  refine ⟨?_, hpeopled, fun t => ?_, fun t => ?_, hdelivered⟩
  · refine hclosed.trans (h.closed.trans ?_)
    cases hpast <;> rfl
  · exact (hlisted t).trans ((h.listed t).trans (hsubscribers t).symm)
  · by_cases heq : t = topic
    · exact heq ▸ hserved
    · exact (h.served t).elsewhere heq (hwaiting t heq) hpast stage

theorem stage_setStage (x : Exchange σ) (topic : Topic) (stage : Stage σ) :
    (x.setStage topic stage).stage topic = stage := Function.update_self ..

/-- A dispatcher may change its stage as long as it has the same to do. -/
theorem Orderly.setStage (h : x.Orderly) {topic : Topic} {stage : Stage σ}
    (hfound : stage.found <+: subscribersOf topic x.past)
    (hheld : stage.held = (x.stage topic).held)
    (hleft : stage.left topic = (x.stage topic).left topic) :
    (x.setStage topic stage).Orderly := by
  refine h.step .nothing rfl h.peopled (fun _ => rfl) (fun _ _ => rfl) h.delivered ?_
  constructor <;> rw [stage_setStage]
  · exact hfound
  · rw [hheld]
    exact (h.served topic).queue
  · rw [hleft]
    exact (h.served topic).rounds

theorem Orderly.take (h : x.Orderly) {topic : Topic} (hidle : x.stage topic = .idle) :
    (x.take topic).Orderly := by
  unfold Exchange.take
  split
  · rename_i u m rest ns hc
    have hsome : x.bus.channel? topic ≠ none := by simp [hc]
    have hwaiting : x.bus.waitingOn topic = m :: rest := by simp [Bus.waitingOn, hc]
    have hlisted (t : Topic) : (x.bus.update topic fun c => { c with waiting := rest }).listed t =
        x.bus.listed t := Bus.listed_update (fun _ => rest) t
    refine h.step .nothing rfl (fun t hempty => ?_) hlisted (fun t hne => ?_) h.delivered ?_
    · have hnone := h.peopled t ((hlisted t).symm.trans hempty)
      simp [Bus.channel?_requeue x.bus topic fun _ => rest, hnone]
    · rw [Bus.waitingOn_take _ _ _ _ hsome, if_neg hne]
    · have hserved := h.served topic
      constructor <;> rw [stage_setStage]
      · exact List.nil_prefix
      · simpa [hidle, hwaiting, Stage.held, Exchange.setStage, Bus.waitingOn_take _ _ _ _ hsome]
          using hserved.queue
      · simpa [hidle, Stage.left, Exchange.setStage] using hserved.rounds
  · exact h

theorem Orderly.look (h : x.Orderly) {topic : Topic} {m : Message}
    (hholding : x.stage topic = .holding m) : (x.look topic m).Orderly := by
  have hserved := h.served topic
  refine h.step (.dispatched m) rfl h.peopled (fun _ => rfl) (fun _ _ => rfl) h.delivered ?_
  constructor <;> rw [stage_setStage]
  · simp [Stage.found, h.listed, Exchange.setStage, subscribersOf]
  · simpa [hholding, accepted, dispatched, Stage.held, Exchange.setStage] using hserved.queue
  · simpa [hholding, calls, Exchange.rounds, Stage.left, h.listed, Exchange.setStage]
      using hserved.rounds

theorem Orderly.call (h : x.Orderly) {topic : Topic} {m : Message} {found : List σ} {done : Nat}
    {n : σ} (hhanding : x.stage topic = .handing m found done) (hget : found[done]? = some n)
    (answer : Handling) : (x.call topic m found done n answer).Orderly := by
  have hserved := h.served topic
  have hfirst : found <+: subscribersOf topic x.past := by
    simpa [hhanding, Stage.found] using hserved.found
  have hlt : done < found.length := (List.getElem?_eq_some_iff.mp hget).1
  refine h.step (.called done m) rfl h.peopled (fun _ => rfl) (fun _ _ => rfl) ?_ ?_
  · refine List.rel_append h.delivered (.cons ⟨rfl, rfl, ?_⟩ .nil)
    obtain ⟨more, hmore⟩ := hfirst
    change (subscribersOf topic x.past)[done]? = some n
    rw [← hmore, List.getElem?_append_left hlt, hget]
  · constructor <;> rw [stage_setStage]
    · exact hfirst
    · have hqueue := hserved.queue
      rw [hhanding] at hqueue
      exact hqueue
    · have hcount : found.length - done = found.length - (done + 1) + 1 := by omega
      have hrounds := hserved.rounds
      simp only [hhanding, Stage.left, hcount, turns_succ] at hrounds
      simpa [calls, Exchange.rounds, Stage.left, Exchange.setStage] using hrounds

theorem Orderly.back (h : x.Orderly) {topic : Topic} {m : Message} {found : List σ} {done : Nat}
    (hcalling : x.stage topic = .calling m found done []) :
    (x.back topic m found done).Orderly := by
  have hserved := h.served topic
  refine h.step (.returned done m) rfl h.peopled (fun _ => rfl) (fun _ _ => rfl) h.delivered ?_
  constructor <;> rw [stage_setStage]
  · simpa [hcalling, Stage.found, Exchange.setStage, subscribersOf] using hserved.found
  · simpa [hcalling, accepted, dispatched, Stage.held, Exchange.setStage] using hserved.queue
  · simpa [hcalling, calls, Exchange.rounds, Stage.left, Exchange.setStage] using hserved.rounds

theorem Orderly.work (h : x.Orderly) (topic : Topic) (answer : Handling) :
    (x.work topic answer).Orderly := by
  have hfirst := (h.served topic).found
  unfold Exchange.work
  split
  · rename_i hidle
    exact h.take hidle
  · rename_i hholding
    exact h.look hholding
  · rename_i m found done hhanding
    split
    · rename_i hget
      exact h.call hhanding hget answer
    · rename_i hnone
      have hdone : found.length - done = 0 :=
        Nat.sub_eq_zero_of_le (List.getElem?_eq_none_iff.mp hnone)
      refine h.setStage List.nil_prefix ?_ ?_
      · rw [hhanding]
        rfl
      · simp [hhanding, Stage.left, hdone, turns]
  · rename_i hcalling
    exact h.back hcalling
  · rename_i m found done p ps hcalling
    refine (h.publish p.1 p.2).setStage ?_ ?_ ?_
    · simpa [hcalling, Stage.found, Exchange.publish, subscribersOf] using hfirst
    all_goals
      simp only [Exchange.publish, hcalling]
      rfl

/-- Whatever anybody does, the record keeps agreeing with the bus and its dispatchers. -/
theorem Orderly.act (h : x.Orderly) (a : Act σ) : (x.act a).Orderly := by
  cases a with
  | subscribe threads topic n => exact h.subscribe threads topic n
  | publish topic m => exact h.publish topic m
  | shutdown => exact h.shutdown
  | work topic answer => exact h.work topic answer

theorem Orderly.run (h : x.Orderly) (acts : List (Act σ)) : (x.run acts).Orderly := by
  induction acts generalizing x with
  | nil => exact h
  | cons a acts ih => exact ih (h.act a)

theorem orderly_after (acts : List (Act σ)) : (after acts).Orderly :=
  orderly_opened.run acts

/-! ### Dispatching without interruption -/

/-- What the subscribers of a topic do with a message, step by step of the dispatcher: each is
called, publishes one message after the other, and comes back. -/
def answers (handle : σ → Message → Handling) (m : Message) (subscribers : List σ) :
    List Handling :=
  subscribers.flatMap fun n =>
    handle n m :: List.replicate ((handle n m).published.length + 1) .silent

/-- The steps of a dispatcher for the next message of its topic: it takes the message, looks who is
subscribed, calls them, and comes to rest. -/
def dispatching (handle : σ → Message → Handling) (bus : Bus σ) (topic : Topic) : List (Act σ) :=
  match bus.waitingOn topic with
  | [] => []
  | m :: _ =>
    (.silent :: .silent :: (answers handle m (bus.listed topic) ++ [.silent])).map (.work topic)

/-- A subscriber publishes what it has to, one message after the other. -/
theorem run_publishAll (x : Exchange σ) {topic : Topic} {m : Message} {found : List σ}
    {done : Nat} {ps : List (Topic × Message)}
    (hcalling : x.stage topic = .calling m found done ps) :
    ∃ past, dispatched topic past = dispatched topic x.past ∧
      x.run ((List.replicate ps.length .silent).map (.work topic)) =
        { x with bus := x.bus.publishAll ps, past }.setStage topic (.calling m found done []) := by
  induction ps generalizing x with
  | nil =>
    refine ⟨x.past, rfl, ?_⟩
    rw [setStage, ← hcalling, Function.update_eq_self]
    rfl
  | cons p ps ih =>
    let y := (x.publish p.1 p.2).setStage topic (.calling m found done ps)
    have hstep : x.act (.work topic .silent) = y := by simp [act, work, hcalling, y]
    obtain ⟨past, hpast, hrun⟩ := ih y (stage_setStage _ _ _)
    refine ⟨past, hpast, ?_⟩
    rw [List.length_cons, List.replicate_succ, List.map_cons, run_cons, hstep, hrun]
    simp [setStage, y, publish]

/-- A dispatcher hands its message to those who have not had it, one after the other. -/
theorem run_answers (handle : σ → Message → Handling) (x : Exchange σ) {topic : Topic}
    {m : Message} {had rest : List σ}
    (hhanding : x.stage topic = .handing m (had ++ rest) had.length) :
    ∃ past, dispatched topic past = dispatched topic x.past ∧
      x.run ((answers handle m rest ++ [Handling.silent]).map (.work topic)) =
        { x with bus := rest.foldl (Bus.deliver handle topic m) x.bus, past }.setStage topic
          .idle := by
  induction rest generalizing x had with
  | nil =>
    refine ⟨x.past, rfl, ?_⟩
    simp [answers, act, work, hhanding]
  | cons n rest ih =>
    have hget : (had ++ n :: rest)[had.length]? = some n := by simp
    let called := x.call topic m (had ++ n :: rest) had.length n (handle n m)
    have hcall : x.act (.work topic (handle n m)) = called := by
      simp only [act, work, hhanding, hget, called]
    obtain ⟨past, hpast, hpublish⟩ := run_publishAll called (stage_setStage _ topic _)
    let published := { called with
      bus := called.bus.publishAll (handle n m).published, past }.setStage topic
        (.calling m (had ++ n :: rest) had.length [])
    let returned := published.back topic m (had ++ n :: rest) had.length
    have hback : published.act (.work topic .silent) = returned := by
      simp [act, work, published, stage_setStage, returned]
    have hreturned :
        returned.stage topic = .handing m ((had ++ [n]) ++ rest) (had ++ [n]).length := by
      simp [returned, back, stage_setStage]
    obtain ⟨past', hpast', hrun⟩ := ih returned hreturned
    refine ⟨past', hpast'.trans hpast, ?_⟩
    have hanswers : answers handle m (n :: rest) ++ [Handling.silent] =
        handle n m :: (List.replicate (handle n m).published.length .silent ++
          .silent :: (answers handle m rest ++ [.silent])) := by
      simp [answers, List.replicate_succ']
    rw [hanswers, List.map_cons, run_cons, hcall, List.map_append, run_append, hpublish,
      List.map_cons, run_cons]
    change (published.act (.work topic .silent)).run _ = _
    rw [hback, hrun]
    simp [returned, back, published, called, call, setStage, Bus.deliver_eq, Bus.hand]

/-- A message that is dispatched at a stroke is dispatched by steps of the topic's dispatcher, and
it is the first of those that wait. -/
theorem run_dispatching (handle : σ → Message → Handling) (x : Exchange σ) (topic : Topic)
    (hidle : x.stage topic = .idle) :
    ∃ past, dispatched topic past = dispatched topic x.past ++ (x.bus.waitingOn topic).take 1 ∧
      x.run (dispatching handle x.bus topic) =
        { x with bus := x.bus.dispatch handle topic, past } := by
  unfold Bus.dispatch
  split
  · rename_i u m rest ns hc
    have hwaiting : x.bus.waitingOn topic = m :: rest := by simp [Bus.waitingOn, hc]
    have hsubscribed : x.bus.listed topic = ns := by simp [Bus.listed, hc]
    let taken := x.take topic
    have htake : x.act (.work topic .silent) = taken := by simp [act, work, hidle, taken]
    have htaken : taken =
        { x with bus := x.bus.update topic fun c => { c with waiting := rest } }.setStage topic
          (.holding m) := by
      simp only [taken, take, hc]
    have hlisted : taken.bus.listed topic = ns := by
      rw [htaken]
      exact (Bus.listed_update (fun _ => rest) topic).trans hsubscribed
    let looked := taken.look topic m
    have hlook : taken.act (.work topic .silent) = looked := by
      simp only [act, work, htaken, stage_setStage, looked]
    have hlooked : looked.stage topic = .handing m ([] ++ ns) ([] : List σ).length := by
      simp only [looked, look, stage_setStage, hlisted, List.nil_append, List.length_nil]
    obtain ⟨past, hpast, hrun⟩ := run_answers handle looked hlooked
    refine ⟨past, ?_, ?_⟩
    · rw [hpast, hwaiting]
      simp [looked, look, htaken, setStage, dispatched]
    · simp only [dispatching, hwaiting, hsubscribed, List.map_cons, run_cons]
      rw [htake, hlook, hrun]
      simp only [looked, look, htaken, setStage, Function.update_idem, ← hidle,
        Function.update_eq_self]
  · rename_i hnone
    have hwaiting : x.bus.waitingOn topic = [] := by
      rw [Bus.waitingOn]
      cases hc : x.bus.channel? topic with
      | none => rfl
      | some c =>
        obtain ⟨u, waiting, ns⟩ := c
        cases waiting with
        | nil => rfl
        | cons m rest => exact (hnone u m rest ns hc).elim
    exact ⟨x.past, by simp [hwaiting], by simp [dispatching, hwaiting]⟩

/-- A bus that settles is one on which the dispatchers take their steps. -/
theorem exists_run_settle (handle : σ → Message → Handling) (x : Exchange σ)
    (hidle : ∀ t, x.stage t = .idle) (steps : Nat) :
    ∃ acts past, (∀ a ∈ acts, ∃ t answer, a = .work t answer) ∧
      x.run acts = { x with bus := x.bus.settle handle steps, past } := by
  induction steps generalizing x with
  | zero => exact ⟨[], x.past, by simp, rfl⟩
  | succ steps ih =>
    rw [Bus.settle]
    split
    · exact ⟨[], x.past, by simp, rfl⟩
    · rename_i topic _
      obtain ⟨past, -, hrun⟩ := run_dispatching handle x topic (hidle topic)
      obtain ⟨more, past', hworks, hmore⟩ :=
        ih { x with bus := x.bus.dispatch handle topic, past } hidle
      refine ⟨dispatching handle x.bus topic ++ more, past', fun a ha => ?_, ?_⟩
      · rcases List.mem_append.mp ha with ha | ha
        · unfold dispatching at ha
          split at ha
          · simp at ha
          · obtain ⟨answer, -, rfl⟩ := List.mem_map.mp ha
            exact ⟨topic, answer, rfl⟩
        · exact hworks a ha
      · rw [run_append, hrun, hmore]

end Exchange
end RuleGraph
