import Mathlib.Logic.Relation
import RuleGraph.Proofs.Traffic.Rest

/-!
# Interleaved dispatchers

Every topic has a dispatcher of its own. While one of them hands a message to a subscriber, and the
subscriber publishes one message after the other, others take steps in between, and so do threads
that put messages in at nodes. Whatever the order of these steps, what was published is what was put
in and what subscribers made of their deliveries, and what was delivered is what was published, once
for each subscription.
-/
namespace RuleGraph

/-- What a thread has still to do: publish messages for the subscriber or the node that it is at,
and then hand a message to further subscribers. -/
structure Task where
  /-- The topic whose dispatcher the thread is, unless it puts a message in. -/
  dispatcher : Option Topic
  publications : List (Topic × Message)
  deliveries : List (Delivery FilterNode)

/-- A bus with the messages that are still to be put in at nodes and the threads at work. -/
structure Traffic where
  bus : Bus FilterNode
  feeds : List (Node × Message)
  tasks : List Task

/-- What a delivery makes its subscriber publish. -/
def Delivery.published (d : Delivery FilterNode) : List (Topic × Message) :=
  (d.subscriber.pipe d.message).published

/-- The deliveries of a message that is published on a topic, one for each subscriber. -/
def Bus.deliveries (bus : Bus FilterNode) (p : Topic × Message) : List (Delivery FilterNode) :=
  (bus.subscribers p.1).map fun n => ⟨p.1, n, p.2⟩

namespace Traffic

/-- One thread takes one step. A filter that is called reacts to its message in one of the ways that
are given for it. -/
inductive Step (answers : FilterNode → Message → Reaction → Prop) : Traffic → Traffic → Prop
  /-- A thread puts a message in at a node. -/
  | feed {bus : Bus FilterNode} {node : Node} {m : Message} (before : List (Node × Message))
      {after : List (Node × Message)} {tasks : List Task} :
      Step answers ⟨bus, before ++ (node, m) :: after, tasks⟩
        ⟨bus.note (node.feed m).events, before ++ after,
          ⟨none, (node.feed m).published, []⟩ :: tasks⟩
  /-- The dispatcher of a topic takes the next message if it is not at work on another. -/
  | take {bus : Bus FilterNode} {feeds : List (Node × Message)} {tasks : List Task}
      {topic : Topic} {m : Message} {rest : List Message} {subscribers : List FilterNode}
      (taken : bus.channel? topic = some ⟨topic, m :: rest, subscribers⟩)
      (idle : ∀ task ∈ tasks, task.dispatcher ≠ some topic) :
      Step answers ⟨bus, feeds, tasks⟩
        ⟨bus.update topic fun c => { c with waiting := rest }, feeds,
          ⟨some topic, [], subscribers.map fun n => ⟨topic, n, m⟩⟩ :: tasks⟩
  /-- A dispatcher calls the next subscriber. -/
  | call {bus : Bus FilterNode} {feeds : List (Node × Message)} (before : List Task)
      {after : List Task} {dispatcher : Option Topic} {d : Delivery FilterNode}
      {ds : List (Delivery FilterNode)} {answer : Reaction}
      (answered : answers d.subscriber d.message answer) :
      Step answers ⟨bus, feeds, before ++ ⟨dispatcher, [], d :: ds⟩ :: after⟩
        ⟨bus.hand (FilterNode.answering answer) d.topic d.message d.subscriber, feeds,
          before ++ ⟨dispatcher, (d.subscriber.answering answer d.message).published, ds⟩ :: after⟩
  /-- A thread publishes the next message. -/
  | publish {bus : Bus FilterNode} {feeds : List (Node × Message)} (before : List Task)
      {after : List Task} {dispatcher : Option Topic} {p : Topic × Message}
      {ps : List (Topic × Message)} {ds : List (Delivery FilterNode)} :
      Step answers ⟨bus, feeds, before ++ ⟨dispatcher, p :: ps, ds⟩ :: after⟩
        ⟨bus.publish p.1 p.2, feeds, before ++ ⟨dispatcher, ps, ds⟩ :: after⟩
  /-- A thread is done with its message. -/
  | finish {bus : Bus FilterNode} {feeds : List (Node × Message)} (before : List Task)
      {after : List Task} {dispatcher : Option Topic} :
      Step answers ⟨bus, feeds, before ++ ⟨dispatcher, [], []⟩ :: after⟩
        ⟨bus, feeds, before ++ after⟩

/-- A filter that reacts to each message in its own way. -/
def Reacts (n : FilterNode) (m : Message) (answer : Reaction) : Prop := answer = n.react m

/-- Steps of any threads in any order, with filters that react in their own way. -/
abbrev Steps : Traffic → Traffic → Prop := Relation.ReflTransGen (Step Reacts)

structure IsComplete (s : Traffic) : Prop where
  feeds : s.feeds = []
  tasks : s.tasks = []
  bus : s.bus.isAtRest = true

variable {s s' : Traffic} {bus₀ : Bus FilterNode} {feeds₀ : List (Node × Message)}
  {answers : FilterNode → Message → Reaction → Prop}

theorem Step.sameWiring (h : Step answers s s') : Bus.SameWiring s.bus s'.bus := by
  cases h with
  | feed => exact ⟨rfl, rfl⟩
  | take => exact Bus.sameWiring_take _ _ _
  | call => exact Bus.sameWiring_hand _ _ _ _ _
  | publish => exact Bus.sameWiring_publish _ _ _
  | finish => exact .refl _

/-! ### The balance of messages -/

/-- The messages to be published for those put in at nodes. -/
def fedPublications (feeds : List (Node × Message)) : Multiset (Topic × Message) :=
  ↑(feeds.flatMap fun f => (f.1.feed f.2).published)

/-- What threads are about to publish. -/
def pending (tasks : List Task) : Multiset (Topic × Message) := ↑(tasks.flatMap Task.publications)

/-- The deliveries that threads are about to make. -/
def due (tasks : List Task) : Multiset (Delivery FilterNode) := ↑(tasks.flatMap Task.deliveries)

/-- What the subscribers publish for deliveries. -/
def reactions (ds : Multiset (Delivery FilterNode)) : Multiset (Topic × Message) :=
  ds.bind fun d => ↑d.published

/-- The deliveries that messages cause when they are published on a bus. -/
def caused (bus : Bus FilterNode) (ps : Multiset (Topic × Message)) :
    Multiset (Delivery FilterNode) := ps.bind fun p => ↑(bus.deliveries p)

theorem fedPublications_insert (before after : List (Node × Message)) (f : Node × Message) :
    fedPublications (before ++ f :: after) =
      ↑(f.1.feed f.2).published + fedPublications (before ++ after) := by
  simp only [fedPublications, List.flatMap_append, List.flatMap_cons, ← Multiset.coe_add]
  abel

theorem pending_cons (task : Task) (tasks : List Task) :
    pending (task :: tasks) = ↑task.publications + pending tasks := (Multiset.coe_add _ _).symm

theorem due_cons (task : Task) (tasks : List Task) :
    due (task :: tasks) = ↑task.deliveries + due tasks := (Multiset.coe_add _ _).symm

theorem pending_insert (before after : List Task) (task : Task) :
    pending (before ++ task :: after) = ↑task.publications + pending (before ++ after) := by
  simp only [pending, List.flatMap_append, List.flatMap_cons, ← Multiset.coe_add]
  abel

theorem due_insert (before after : List Task) (task : Task) :
    due (before ++ task :: after) = ↑task.deliveries + due (before ++ after) := by
  simp only [due, List.flatMap_append, List.flatMap_cons, ← Multiset.coe_add]
  abel

theorem reactions_concat (ds : List (Delivery FilterNode)) (d : Delivery FilterNode) :
    reactions ↑(ds ++ [d]) = reactions ↑ds + ↑d.published := by
  rw [reactions, ← Multiset.coe_add, Multiset.add_bind, Multiset.coe_singleton,
    Multiset.singleton_bind]
  rfl

theorem caused_add (bus : Bus FilterNode) (ps qs : Multiset (Topic × Message)) :
    caused bus (ps + qs) = caused bus ps + caused bus qs := Multiset.add_bind ..

theorem caused_singleton (bus : Bus FilterNode) (p : Topic × Message) :
    caused bus {p} = ↑(bus.deliveries p) := Multiset.singleton_bind ..

/-- The messages that were put in and the deliveries that were made account for all messages that
are published or about to be, and the messages that were published account for all deliveries that
are made, about to be made, or wait. -/
structure Balanced (bus₀ : Bus FilterNode) (feeds₀ : List (Node × Message)) (s : Traffic) :
    Prop where
  wiring : Bus.SameWiring bus₀ s.bus
  publications : ↑s.bus.published + pending s.tasks + fedPublications s.feeds =
    fedPublications feeds₀ + reactions ↑s.bus.delivered
  deliveries : ↑s.bus.delivered + due s.tasks + caused bus₀ s.bus.queued =
    caused bus₀ ↑s.bus.published

theorem coe_concat {α : Type} (as : List α) (a : α) : (↑(as ++ [a]) : Multiset α) = ↑as + {a} :=
  (Multiset.coe_add as [a]).symm

theorem coe_cons {α : Type} (a : α) (as : List α) : (↑(a :: as) : Multiset α) = {a} + ↑as :=
  (Multiset.coe_add [a] as).symm

theorem published_step (hopen : s.bus.closed = false) (hstep : Step Reacts s s')
    (h : ↑s.bus.published + pending s.tasks + fedPublications s.feeds =
      fedPublications feeds₀ + reactions ↑s.bus.delivered) :
    ↑s'.bus.published + pending s'.tasks + fedPublications s'.feeds =
      fedPublications feeds₀ + reactions ↑s'.bus.delivered := by
  cases hstep with
  | feed =>
    simp only [fedPublications_insert, pending_cons, Bus.note] at h ⊢
    rw [← h]
    abel
  | take => exact h
  | @call _ _ _ _ _ d _ _ answered =>
    cases answered
    have hown : (d.subscriber.answering (d.subscriber.react d.message) d.message).published =
        d.published := rfl
    simp only [pending_insert, hown, Bus.published_hand, Bus.delivered_hand, reactions_concat,
      Multiset.coe_nil] at h ⊢
    rw [← add_assoc (fedPublications feeds₀), ← h]
    abel
  | publish =>
    simp only [pending_insert, Bus.published_publish hopen, Bus.delivered_publish, coe_concat,
      coe_cons] at h ⊢
    rw [← h]
    abel
  | finish => simpa [pending_insert] using h

theorem delivered_step (hbus : bus₀.Sound) (hwiring : Bus.SameWiring bus₀ s.bus)
    (hstep : Step Reacts s s')
    (h : ↑s.bus.delivered + due s.tasks + caused bus₀ s.bus.queued =
      caused bus₀ ↑s.bus.published) :
    ↑s'.bus.delivered + due s'.tasks + caused bus₀ s'.bus.queued =
      caused bus₀ ↑s'.bus.published := by
  have hsound := hbus.of_sameWiring hwiring
  cases hstep with
  | feed =>
    simp only [due_cons, Multiset.coe_nil, zero_add]
    exact h
  | @take bus _ _ topic m _ subscribers taken _ =>
    have hsubscribers : bus₀.deliveries (topic, m) = subscribers.map fun n => ⟨topic, n, m⟩ := by
      rw [Bus.deliveries, ← hwiring.subscribers, Bus.subscribers, hsound.isOpen, taken]
      rfl
    simp only [Bus.queued_take hsound.nodup taken, caused_add, caused_singleton,
      hsubscribers] at h
    simp only [due_cons, Bus.published_update, Bus.delivered_update]
    rw [← h]
    abel
  | call =>
    simp only [due_insert, Bus.published_hand, Bus.delivered_hand, Bus.queued_hand, coe_concat,
      coe_cons] at h ⊢
    rw [← h]
    abel
  | @publish bus _ _ _ _ p =>
    -- without subscribers the message does not wait, but it causes no deliveries either
    have hput : caused bus₀ (if p.1 ∈ bus.topics then {p} else 0) = caused bus₀ {p} := by
      split
      · rfl
      · rename_i hnone
        have hsubscribers : bus₀.deliveries p = [] := by
          rw [Bus.deliveries, ← hwiring.subscribers, Bus.subscribers_of_notMem hnone, List.map_nil]
        rw [caused_singleton, hsubscribers]
        rfl
    simp only [due_insert, Bus.published_publish hsound.isOpen, Bus.delivered_publish, coe_concat,
      Bus.queued_publish hsound.isOpen hsound.nodup, caused_add, hput] at h ⊢
    rw [← h]
    abel
  | finish => simpa [due_insert] using h

theorem Balanced.step (hbus : bus₀.Sound) (h : Balanced bus₀ feeds₀ s) (hstep : Step Reacts s s') :
    Balanced bus₀ feeds₀ s' :=
  ⟨h.wiring.trans hstep.sameWiring,
    published_step (hbus.of_sameWiring h.wiring).isOpen hstep h.publications,
    delivered_step hbus h.wiring hstep h.deliveries⟩

theorem Balanced.steps (hbus : bus₀.Sound) (h : Balanced bus₀ feeds₀ s) (hsteps : Steps s s') :
    Balanced bus₀ feeds₀ s' := by
  induction hsteps with
  | refl => exact h
  | tail _ hstep ih => exact ih.step hbus hstep

/-- Nothing was published or delivered at the start, so that only what is put in counts. -/
theorem balanced_start (h : bus₀.Fresh) (feeds₀ : List (Node × Message)) :
    Balanced bus₀ feeds₀ ⟨bus₀, feeds₀, []⟩ := by
  refine ⟨.refl _, ?_, ?_⟩
  · simp [h.published, h.delivered, pending, reactions]
  · simp [h.published, h.delivered, h.queued, due, caused]

/-! ### The order of messages -/

/-- Messages are published in order, but for those that a thread is still about to publish. -/
def InOrder (s : Traffic) (ps : List (Topic × Message)) : Prop :=
  ∃ done left, ps = done ++ left ∧ done.Sublist s.bus.published ∧
    (left = [] ∨ ∃ task ∈ s.tasks, task.publications = left)

theorem InOrder.step (hopen : s.bus.closed = false) (hstep : Step Reacts s s')
    {ps : List (Topic × Message)} (h : InOrder s ps) : InOrder s' ps := by
  obtain ⟨done, left, rfl, hdone, hleft⟩ := h
  rcases hleft with rfl | ⟨task, htask, rfl⟩
  · refine ⟨done, [], rfl, hdone.trans ?_, .inl rfl⟩
    cases hstep with
    | publish => simp [Bus.published_publish hopen]
    | _ => exact .refl _
  cases hstep with
  | feed => exact ⟨done, _, rfl, hdone, .inr ⟨task, List.mem_cons_of_mem _ htask, rfl⟩⟩
  | take => exact ⟨done, _, rfl, hdone, .inr ⟨task, List.mem_cons_of_mem _ htask, rfl⟩⟩
  | call =>
    refine ⟨done, _, rfl, hdone, ?_⟩
    rcases List.mem_append.mp htask with htask | htask
    · exact .inr ⟨task, List.mem_append_left _ htask, rfl⟩
    rcases List.mem_cons.mp htask with rfl | htask
    · exact .inl rfl
    · exact .inr ⟨task, List.mem_append_right _ (List.mem_cons_of_mem _ htask), rfl⟩
  | @publish bus _ before after dispatcher p ps ds =>
    have hmore : (bus.publish p.1 p.2).published = bus.published ++ [p] :=
      Bus.published_publish hopen p.1 p.2
    have hkept : done.Sublist (bus.publish p.1 p.2).published := by
      rw [hmore]
      exact hdone.trans (List.sublist_append_left _ _)
    rcases List.mem_append.mp htask with htask | htask
    · exact ⟨done, _, rfl, hkept, .inr ⟨task, List.mem_append_left _ htask, rfl⟩⟩
    rcases List.mem_cons.mp htask with rfl | htask
    · -- the thread publishes the next of these messages
      refine ⟨done ++ [p], ps, by simp, ?_, .inr ⟨⟨dispatcher, ps, ds⟩, by simp, rfl⟩⟩
      rw [hmore]
      exact hdone.append (.refl _)
    · exact ⟨done, _, rfl, hkept,
        .inr ⟨task, List.mem_append_right _ (List.mem_cons_of_mem _ htask), rfl⟩⟩
  | finish =>
    refine ⟨done, _, rfl, hdone, ?_⟩
    rcases List.mem_append.mp htask with htask | htask
    · exact .inr ⟨task, List.mem_append_left _ htask, rfl⟩
    rcases List.mem_cons.mp htask with rfl | htask
    · exact .inl rfl
    · exact .inr ⟨task, List.mem_append_right _ htask, rfl⟩

/-- Each node publishes in order what it makes of a message. -/
structure Ordered (feeds₀ : List (Node × Message)) (s : Traffic) : Prop where
  fed : ∀ f ∈ feeds₀, f ∈ s.feeds ∨ InOrder s (f.1.feed f.2).published
  delivered : ∀ d ∈ s.bus.delivered, InOrder s d.published

theorem Ordered.step (hopen : s.bus.closed = false) (h : Ordered feeds₀ s)
    (hstep : Step Reacts s s') : Ordered feeds₀ s' := by
  have hkept {ps : List (Topic × Message)} : InOrder s ps → InOrder s' ps := .step hopen hstep
  refine ⟨fun f hf => ?_, fun d hd => ?_⟩
  · rcases h.fed f hf with hf | hf
    · cases hstep with
      | @feed _ node m _ _ _ =>
        rcases List.mem_append.mp hf with hf | hf
        · exact .inl (List.mem_append_left _ hf)
        rcases List.mem_cons.mp hf with rfl | hf
        · exact .inr ⟨[], _, rfl, List.nil_sublist _, .inr ⟨_, List.mem_cons_self, rfl⟩⟩
        · exact .inl (List.mem_append_right _ hf)
      | _ => exact .inl hf
    · exact .inr (hkept hf)
  · cases hstep with
    | call _ answered =>
      cases answered
      rw [Bus.delivered_hand] at hd
      rcases List.mem_append.mp hd with hd | hd
      · exact hkept (h.delivered d hd)
      · obtain rfl := List.mem_singleton.mp hd
        exact ⟨[], _, rfl, List.nil_sublist _,
          .inr ⟨_, List.mem_append_right _ List.mem_cons_self, rfl⟩⟩
    | publish => exact hkept (h.delivered d (by rwa [Bus.delivered_publish] at hd))
    | _ => exact hkept (h.delivered d hd)

theorem Steps.sameWiring (h : Steps s s') : Bus.SameWiring s.bus s'.bus := by
  induction h with
  | refl => exact .refl _
  | tail _ hstep ih => exact ih.trans hstep.sameWiring

theorem Ordered.steps (hopen : s.bus.closed = false) (h : Ordered feeds₀ s) (hsteps : Steps s s') :
    Ordered feeds₀ s' := by
  induction hsteps with
  | refl => exact h
  | tail hsteps hstep ih => exact ih.step ((Steps.sameWiring hsteps).closed.trans hopen) hstep

theorem ordered_start (h : bus₀.Fresh) (feeds₀ : List (Node × Message)) :
    Ordered feeds₀ ⟨bus₀, feeds₀, []⟩ :=
  ⟨fun _ hf => .inl hf, by simp [h.delivered]⟩

/-- When nothing is left to be done, all messages are published in order. -/
theorem InOrder.sublist (h : s.IsComplete) {ps : List (Topic × Message)} (hps : InOrder s ps) :
    ps.Sublist s.bus.published := by
  obtain ⟨done, left, rfl, hdone, rfl | ⟨task, htask, _⟩⟩ := hps
  · simpa using hdone
  · simp [h.tasks] at htask

/-! ### Runs that end -/

theorem steps_publications (bus : Bus FilterNode) (feeds : List (Node × Message))
    (dispatcher : Option Topic) (ps : List (Topic × Message)) (ds : List (Delivery FilterNode))
    (tasks : List Task) :
    Steps ⟨bus, feeds, ⟨dispatcher, ps, ds⟩ :: tasks⟩
      ⟨bus.publishAll ps, feeds, ⟨dispatcher, [], ds⟩ :: tasks⟩ := by
  induction ps generalizing bus with
  | nil => exact .refl
  | cons p ps ih => exact .head (.publish []) (ih _)

theorem steps_task (bus : Bus FilterNode) (feeds : List (Node × Message))
    (dispatcher : Option Topic) (ps : List (Topic × Message)) (ds : List (Delivery FilterNode))
    (tasks : List Task) :
    Steps ⟨bus, feeds, ⟨dispatcher, ps, ds⟩ :: tasks⟩
      ⟨ds.foldl (fun bus d => bus.deliver FilterNode.pipe d.topic d.message d.subscriber)
        (bus.publishAll ps), feeds, tasks⟩ := by
  induction ds generalizing bus ps with
  | nil => exact (steps_publications bus feeds dispatcher ps [] tasks).tail (.finish [])
  | cons d ds ih =>
    exact ((steps_publications bus feeds dispatcher ps (d :: ds) tasks).tail
      (.call [] rfl)).trans (ih _ _)

/-- Putting a message in at a node is a run of one thread. -/
theorem steps_feed (bus : Bus FilterNode) (node : Node) (m : Message)
    (feeds : List (Node × Message)) (tasks : List Task) :
    Steps ⟨bus, (node, m) :: feeds, tasks⟩
      ⟨(bus.note (node.feed m).events).publishAll (node.feed m).published, feeds, tasks⟩ :=
  .head (.feed []) (steps_task _ _ _ _ [] _)

/-- Dispatching the next message of a topic is a run of one thread. -/
theorem steps_dispatch {bus : Bus FilterNode} {topic : Topic} {m : Message} {rest : List Message}
    {ns : List FilterNode} (taken : bus.channel? topic = some ⟨topic, m :: rest, ns⟩)
    (feeds : List (Node × Message)) :
    Steps ⟨bus, feeds, []⟩ ⟨bus.dispatch FilterNode.pipe topic, feeds, []⟩ := by
  refine .head (.take taken (by simp)) ?_
  have hrun := steps_task (bus.update topic fun c => { c with waiting := rest }) feeds (some topic)
    [] (ns.map fun n => ⟨topic, n, m⟩) []
  rw [List.foldl_map] at hrun
  simpa only [Bus.dispatch, taken, Bus.publishAll_nil] using hrun

/-- Settling the bus is a run of its dispatchers. -/
theorem steps_settle {bus : Bus FilterNode} (hbus : bus.Sound) (feeds : List (Node × Message))
    (steps : Nat) : Steps ⟨bus, feeds, []⟩ ⟨bus.settle FilterNode.pipe steps, feeds, []⟩ := by
  induction steps generalizing bus with
  | zero => exact .refl
  | succ steps ih =>
    rw [Bus.settle]
    split
    · exact .refl
    · rename_i topic hbusy
      obtain ⟨m, rest, ns, taken⟩ := Bus.exists_next_of_busy? hbus.nodup hbusy
      exact (steps_dispatch taken feeds).trans
        (ih (hbus.of_sameWiring (Bus.dispatches_dispatch taken).sameWiring))

theorem exists_steps_tasks (bus : Bus FilterNode) (feeds : List (Node × Message))
    (tasks : List Task) : ∃ bus', Steps ⟨bus, feeds, tasks⟩ ⟨bus', feeds, []⟩ := by
  induction tasks generalizing bus with
  | nil => exact ⟨bus, .refl⟩
  | cons task tasks ih =>
    obtain ⟨bus', hsteps⟩ := ih _
    exact ⟨bus', (steps_task bus feeds task.dispatcher task.publications task.deliveries
      tasks).trans hsteps⟩

theorem exists_steps_feeds (bus : Bus FilterNode) (feeds : List (Node × Message)) :
    ∃ bus', Steps ⟨bus, feeds, []⟩ ⟨bus', [], []⟩ := by
  induction feeds generalizing bus with
  | nil => exact ⟨bus, .refl⟩
  | cons f feeds ih =>
    obtain ⟨bus', hsteps⟩ := ih _
    exact ⟨bus', (steps_feed bus f.1 f.2 feeds []).trans hsteps⟩

/-- Every run can be completed. -/
theorem exists_complete (hbus : s.bus.Sound) : ∃ s', Steps s s' ∧ s'.IsComplete := by
  obtain ⟨bus, feeds, tasks⟩ := s
  obtain ⟨bus', htasks⟩ := exists_steps_tasks bus feeds tasks
  obtain ⟨bus'', hfeeds⟩ := exists_steps_feeds bus' feeds
  have hrun := htasks.trans hfeeds
  have hbus'' : bus''.Sound := hbus.of_sameWiring (Steps.sameWiring hrun)
  obtain ⟨steps, hrest⟩ := hbus''.exists_settle
  exact ⟨_, hrun.trans (steps_settle hbus'' [] steps), rfl, rfl, hrest⟩

end Traffic
end RuleGraph
