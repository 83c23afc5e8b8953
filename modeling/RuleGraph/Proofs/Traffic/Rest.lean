import Mathlib
import RuleGraph.Proofs.Traffic.Queues

/-!
# The bus comes to rest

A step takes the next message of some topic and hands it to the subscribers, each of which answers
in any way: it emits what it likes, and then decides, fails or panics. One waiting message is
replaced by finitely many others on topics to which edges lead from its own. Edges make no cycle, so
the topics of all waiting messages go down in the order of multisets, and no run of steps goes on
forever.
-/
namespace RuleGraph

/-- What the filter does with a message if it reacts in a given way. -/
def FilterNode.answering (answer : Reaction) (n : FilterNode) (m : Message) : Handling :=
  { n with react := fun _ => answer }.pipe m

theorem FilterNode.pipe_eq_answering (n : FilterNode) (m : Message) :
    n.pipe m = n.answering (n.react m) m := rfl

theorem FilterNode.topic_of_mem_pipe {n : FilterNode} {m : Message} {p : Topic × Message}
    (h : p ∈ (n.pipe m).published) : p.1 = n.topic := by
  unfold pipe at h
  cases hverdict : (n.react m).verdict <;> simp only [hverdict, List.mem_map] at h <;>
    obtain ⟨_, _, rfl⟩ := h <;> rfl

theorem FilterNode.topic_of_mem_answering {n : FilterNode} {answer : Reaction} {m : Message}
    {p : Topic × Message} (h : p ∈ (n.answering answer m).published) : p.1 = n.topic :=
  topic_of_mem_pipe (n := { n with react := fun _ => answer }) h

namespace Bus

/-- Subscribers are handed a message one after the other, and each answers in some way. -/
inductive Handles (topic : Topic) (m : Message) :
    List FilterNode → Bus FilterNode → Bus FilterNode → Prop
  | nil {bus : Bus FilterNode} : Handles topic m [] bus bus
  | cons {n : FilterNode} {ns : List FilterNode} {bus bus' : Bus FilterNode} (answer : Reaction)
      (rest : Handles topic m ns (bus.deliver (FilterNode.answering answer) topic m n) bus') :
      Handles topic m (n :: ns) bus bus'

/-- The next message of some topic is taken and handed to the subscribers of the topic. -/
inductive Dispatches (bus bus' : Bus FilterNode) : Prop
  | next {topic : Topic} {m : Message} {rest : List Message} {subscribers : List FilterNode}
      (taken : bus.channel? topic = some ⟨topic, m :: rest, subscribers⟩)
      (handled : Handles topic m subscribers
        (bus.update topic fun c => { c with waiting := rest }) bus')

/-- A message is dispatched, or messages are published from outside, as by a node at which a
message is put in. -/
inductive Moves (bus : Bus FilterNode) : Bus FilterNode → Prop
  | dispatch {bus' : Bus FilterNode} (h : Dispatches bus bus') : Moves bus bus'
  | put (ms : List (Topic × Message)) (events : List Event) :
      Moves bus ((bus.note events).publishAll ms)

variable {bus bus' : Bus FilterNode} {topic : Topic} {m : Message} {ns : List FilterNode}

theorem Handles.sameWiring (h : Handles topic m ns bus bus') : SameWiring bus bus' := by
  induction h with
  | nil => exact .refl _
  | cons answer _ ih => exact (sameWiring_deliver _ topic m _ _).trans ih

/-- What comes to wait while subscribers are handed a message is on topics of theirs. -/
theorem Handles.queued (h : Handles topic m ns bus bus') (hbus : bus.Sound) :
    ∃ new : Multiset (Topic × Message), bus'.queued = bus.queued + new ∧
      ∀ p ∈ new, ∃ n ∈ ns, p.1 = n.topic := by
  induction h with
  | nil => exact ⟨0, by simp, by simp⟩
  | @cons n ns bus bus' answer _ ih =>
    have hsame := sameWiring_deliver (FilterNode.answering answer) topic m bus n
    obtain ⟨new, hqueued, hnew⟩ := ih (hbus.of_sameWiring hsame)
    refine ⟨↑((n.answering answer m).published.filter fun p => p.1 ∈ bus.topics) + new, ?_, ?_⟩
    · rw [hqueued, queued_deliver hbus.isOpen hbus.nodup, add_assoc]
    · intro p hp
      rcases Multiset.mem_add.mp hp with hp | hp
      · have hp : p ∈ (n.answering answer m).published := (List.mem_filter.mp hp).1
        exact ⟨n, List.mem_cons_self, FilterNode.topic_of_mem_answering hp⟩
      · obtain ⟨n', hn', htopic⟩ := hnew p hp
        exact ⟨n', List.mem_cons_of_mem _ hn', htopic⟩

theorem Dispatches.sameWiring (h : Dispatches bus bus') : SameWiring bus bus' := by
  obtain ⟨_, handled⟩ := h
  exact (sameWiring_take bus _ _).trans handled.sameWiring

theorem Moves.sameWiring (h : Moves bus bus') : SameWiring bus bus' := by
  cases h with
  | dispatch h => exact h.sameWiring
  | put ms events =>
    have hpublish := sameWiring_publishAll (bus.note events) ms
    exact ⟨hpublish.closed, hpublish.wiring⟩

/-- The topics of the messages that wait. -/
def busyTopics (bus : Bus FilterNode) : Multiset Topic := bus.queued.map Prod.fst

/-- A step replaces a topic by finitely many others to which edges lead from it. -/
theorem Dispatches.cutExpand (h : Dispatches bus bus') (hbus : bus.Sound) :
    Relation.CutExpand (fun t s => ⟨s, t⟩ ∈ bus.edges) bus'.busyTopics bus.busyTopics := by
  obtain ⟨taken, handled⟩ := h
  rename_i topic m rest ns
  obtain ⟨new, hqueued, hnew⟩ :=
    handled.queued (hbus.of_sameWiring (sameWiring_take bus topic rest))
  refine ⟨new.map Prod.fst, topic, ?_, ?_⟩
  · intro t ht
    obtain ⟨p, hp, rfl⟩ := Multiset.mem_map.mp ht
    obtain ⟨n, hn, htopic⟩ := hnew p hp
    rw [htopic]
    refine mem_edges_of_mem_subscribers ?_
    simpa [subscribers, hbus.isOpen, taken] using hn
  · rw [busyTopics, busyTopics, hqueued, queued_take hbus.nodup taken]
    simp only [Multiset.map_add, Multiset.map_singleton]
    abel

theorem Sound.acc (hbus : bus.Sound) : Acc (fun next bus => Dispatches bus next) bus := by
  have hwf := hbus.acyclic.wellFounded.cutExpand
  -- the wiring stays as it is along a run, so all its steps go down in one order
  suffices hacc : ∀ b, SameWiring bus b → Acc (fun next bus => Dispatches bus next) b from
    hacc bus (.refl bus)
  intro b hsame
  induction hb : b.busyTopics using hwf.induction generalizing b with
  | _ topics ih =>
    refine .intro b fun next hnext => ih next.busyTopics ?_ next (hsame.trans hnext.sameWiring) rfl
    rw [← hb, ← hsame.edges]
    exact hnext.cutExpand (hbus.of_sameWiring hsame)

/-- What filters do with a message is one way to answer it. -/
theorem handles_foldl_deliver (ns : List FilterNode) (bus : Bus FilterNode) :
    Handles topic m ns bus (ns.foldl (deliver FilterNode.pipe topic m) bus) := by
  induction ns generalizing bus with
  | nil => exact .nil
  | cons n ns ih =>
    have hanswer : bus.deliver FilterNode.pipe topic m n =
        bus.deliver (FilterNode.answering (n.react m)) topic m n := by
      rw [deliver, deliver, FilterNode.pipe_eq_answering]
    refine .cons (n.react m) ?_
    rw [← hanswer]
    exact ih _

theorem dispatches_dispatch {rest : List Message}
    (taken : bus.channel? topic = some ⟨topic, m :: rest, ns⟩) :
    Dispatches bus (bus.dispatch FilterNode.pipe topic) := by
  refine .next taken ?_
  simp only [dispatch, taken]
  exact handles_foldl_deliver ns _

/-- A bus can make a step just when it is not at rest. -/
theorem exists_dispatches_iff (hnodup : bus.topics.Nodup) :
    (∃ next, Dispatches bus next) ↔ bus.isAtRest = false := by
  constructor
  · rintro ⟨_, taken, _⟩
    exact not_isAtRest_of_next taken
  · intro hbusy
    cases h : bus.busy? with
    | none => simp [isAtRest_of_busy?_eq_none h] at hbusy
    | some topic =>
      obtain ⟨m, rest, ns, taken⟩ := exists_next_of_busy? hnodup h
      exact ⟨_, dispatches_dispatch taken⟩

/-- Enough steps settle the bus. -/
theorem Sound.exists_settle (hbus : bus.Sound) :
    ∃ steps, (bus.settle FilterNode.pipe steps).isAtRest = true := by
  have hacc := hbus.acc
  induction hacc with
  | intro bus _ ih =>
    cases h : bus.busy? with
    | none => exact ⟨0, isAtRest_of_busy?_eq_none h⟩
    | some topic =>
      obtain ⟨m, rest, ns, taken⟩ := exists_next_of_busy? hbus.nodup h
      have hstep := dispatches_dispatch taken
      obtain ⟨steps, hrest⟩ := ih _ hstep (hbus.of_sameWiring hstep.sameWiring)
      exact ⟨steps + 1, by simpa [settle, h] using hrest⟩

end Bus

namespace Ruleset

/-- Whatever was compiled and whatever is put in, the bus comes to rest: however filters answer, no
run of dispatch steps goes on forever, and a run can only stop where nothing waits. So the bus
settles in a number of steps. -/
theorem comes_to_rest (registry : Registry) (config : Config) (calls : List Call)
    {bus : Bus FilterNode}
    (hmoves : Relation.ReflTransGen Bus.Moves (after registry config calls).bus bus) :
    (¬ ∃ run : Nat → Bus FilterNode, run 0 = bus ∧ ∀ i, Bus.Dispatches (run i) (run (i + 1))) ∧
    (∀ bus', Relation.ReflTransGen Bus.Dispatches bus bus' →
      ((¬ ∃ next, Bus.Dispatches bus' next) ↔ bus'.isAtRest = true)) ∧
    ∃ steps, (bus.settle FilterNode.pipe steps).isAtRest = true := by
  have hbus : bus.Sound := by
    induction hmoves with
    | refl => exact sound_after registry config calls
    | tail _ hmove ih => exact ih.of_sameWiring hmove.sameWiring
  refine ⟨?_, fun bus' hsteps => ?_, hbus.exists_settle⟩
  · exact fun hrun => not_acc_iff_exists_descending_chain.mpr hrun hbus.acc
  · have hbus' : bus'.Sound := by
      induction hsteps with
      | refl => exact hbus
      | tail _ hstep ih => exact ih.of_sameWiring hstep.sameWiring
    rw [Bus.exists_dispatches_iff hbus'.nodup, Bool.not_eq_false]

/-- A message on its way through two filters comes to rest. -/
theorem comes_to_rest_pair :
    let registry := Registry.empty.addFilter "pass" fun _ => .ok .matched
    let pair : Rule := ⟨"pair", ⟨1, 1⟩,
      .fragment (.filter "pass" [] false) [.filter "pass" [] true]⟩
    let rs := after registry .empty [.addRule ⟨"m"⟩ pair []]
    let bus := (rs.bus.note []).publishAll [(⟨"pass:0"⟩, .ofPayload .null)]
    Relation.ReflTransGen Bus.Moves rs.bus bus ∧ bus.isAtRest = false ∧
      ¬ ∃ run : Nat → Bus FilterNode, run 0 = bus ∧ ∀ i, Bus.Dispatches (run i) (run (i + 1)) := by
  intro registry pair rs bus
  have hmoves : Relation.ReflTransGen Bus.Moves rs.bus bus := .single (.put _ _)
  have hbusy : bus.isAtRest = false := by
    simp only [bus, rs, pair, registry]
    cbv
  exact ⟨hmoves, hbusy, (comes_to_rest registry .empty _ hmoves).1⟩

end Ruleset
end RuleGraph
