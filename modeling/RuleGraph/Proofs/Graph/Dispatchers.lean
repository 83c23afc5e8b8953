import RuleGraph.Proofs.Traffic.Queues

/-!
# Dispatchers

The queue of a topic is handed out by a thread of its own. It is started when the topic gets its
first subscriber, and named after the topic. So wires are connected just when threads can be named
after all topics that they leave, and there are enough of them. Then one thread was started for each
topic that an edge leaves.
-/
namespace RuleGraph

namespace Threads

/-- So many threads are started. -/
def Allow : Threads → Nat → Prop
  | .ample, _ => True
  | .few total _, count => count ≤ total

/-- What is left when some of the threads were started. -/
inductive Leave : Threads → Nat → Threads → Prop
  | ample {started : Nat} : Leave .ample started .ample
  | few {total started left : Nat} {reason : String} (sum : started + left = total) :
      Leave (.few total reason) started (.few left reason)

/-- There is a thread for each thing that has a property. -/
def Suffice {α : Type} (given : Threads) (P : α → Prop) : Prop :=
  ∀ l : List α, l.Nodup → (∀ a ∈ l, P a) → given.Allow l.length

variable {given left : Threads} {started count : Nat} {α β : Type} {P Q : α → Prop}

theorem leave_zero (given : Threads) : given.Leave 0 given := by
  cases given with
  | ample => exact .ample
  | few left reason => exact .few (Nat.zero_add left)

theorem Leave.allow (h : given.Leave started left) : given.Allow started := by
  cases h with
  | ample => trivial
  | few sum => exact Nat.le.intro sum

theorem Allow.mono (h : given.Allow count) (hle : started ≤ count) : given.Allow started := by
  cases given with
  | ample => trivial
  | few => exact Nat.le_trans hle h

/-- One more thread is started just when one more is allowed. -/
theorem Leave.start (h : given.Leave started left) :
    (∃ next, left.start = .ok next ∧ given.Leave (started + 1) next) ∨
      (∃ reason, left.start = .error reason) ∧ ¬ given.Allow (started + 1) := by
  cases h with
  | ample => exact .inl ⟨.ample, rfl, .ample⟩
  | @few total _ left reason sum =>
    cases left with
    | zero => exact .inr ⟨⟨reason, rfl⟩, by simp only [Allow]; omega⟩
    | succ left => exact .inl ⟨.few left reason, rfl, .few (by omega)⟩

theorem Suffice.mono (h : given.Suffice Q) (himp : ∀ a, P a → Q a) : given.Suffice P :=
  fun l hnodup hl => h l hnodup fun a ha => himp a (hl a ha)

/-- Things and what stands for them, one for each, need the same number of threads. -/
theorem suffice_image_iff {Q : β → Prop} (f : α → β) (hQ : ∀ b, Q b ↔ ∃ a, P a ∧ f a = b)
    (hinj : ∀ a a', P a → P a' → f a = f a' → a = a') : given.Suffice Q ↔ given.Suffice P := by
  constructor
  · intro h l hnodup hl
    have hmap : (l.map f).Nodup :=
      List.Nodup.map_on (fun a ha a' ha' => hinj a a' (hl a ha) (hl a' ha')) hnodup
    have hallow := h (l.map f) hmap fun b hb => by
      obtain ⟨a, ha, rfl⟩ := List.mem_map.mp hb
      exact (hQ _).mpr ⟨a, hl a ha, rfl⟩
    rwa [List.length_map] at hallow
  · intro h l hnodup hl
    obtain ⟨l', hl', rfl⟩ : ∃ l' : List α, (∀ a ∈ l', P a) ∧ l'.map f = l := by
      clear hnodup
      induction l with
      | nil => exact ⟨[], by simp, rfl⟩
      | cons b l ih =>
        obtain ⟨hb, hrest⟩ := List.forall_mem_cons.mp hl
        obtain ⟨a, ha, rfl⟩ := (hQ b).mp hb
        obtain ⟨l', hl', rfl⟩ := ih hrest
        exact ⟨a :: l', List.forall_mem_cons.mpr ⟨ha, hl'⟩, rfl⟩
    rw [List.length_map]
    exact h l' hnodup.of_map hl'

end Threads

namespace Ruleset

/-- A fresh ruleset, where the system has some threads to give. -/
def newWith (registry : Registry) (config : Config) (given : Threads) : Ruleset :=
  { new registry config with threads := given }

/-- Out of some threads, one was started for each topic that an edge leaves. -/
structure Dispatched (rs : Ruleset) (given : Threads) : Prop where
  isOpen : rs.bus.closed = false
  nodup : rs.bus.topics.Nodup
  named : ∀ t ∈ rs.bus.topics, t.Nameable
  sources : ∀ t, t ∈ rs.bus.topics ↔ ∃ e ∈ rs.downstream, e.source = t
  left : given.Leave rs.bus.topics.length rs.threads

variable {rs rs' : Ruleset} {given : Threads}

theorem dispatched_new (registry : Registry) (config : Config) (given : Threads) :
    (newWith registry config given).Dispatched given :=
  ⟨rfl, List.nodup_nil, by simp [newWith, new, Bus.empty, Bus.topics],
    by simp [newWith, new, Bus.empty, Bus.topics], Threads.leave_zero given⟩

theorem Dispatched.congr (h : rs.Dispatched given) (hbus : rs'.bus = rs.bus)
    (hdownstream : rs'.downstream = rs.downstream) (hthreads : rs'.threads = rs.threads) :
    rs'.Dispatched given := by
  refine ⟨hbus ▸ h.isOpen, hbus ▸ h.nodup, hbus ▸ h.named, ?_, ?_⟩
  · rw [hbus, hdownstream]
    exact h.sources
  · rw [hbus, hthreads]
    exact h.left

theorem Dispatched.suffice (h : rs.Dispatched given) :
    given.Suffice fun t => ∃ e ∈ rs.downstream, e.source = t := by
  intro l hnodup hl
  have hsub : l ⊆ rs.bus.topics := fun t ht => (h.sources t).mpr (hl t ht)
  exact h.left.allow.mono (List.subperm_of_subset hnodup hsub).length_le

theorem sources_wired {w : Wire} {bus : Bus FilterNode} {threads : Threads} (t : Topic) :
    (∃ e ∈ (rs.wired w bus threads).downstream, e.source = t) ↔
      (∃ e ∈ rs.downstream, e.source = t) ∨ w.topic = t := by
  simp only [wired, mem_addEdge]
  constructor
  · rintro ⟨e, he | rfl, ht⟩
    · exact .inl ⟨e, he, ht⟩
    · exact .inr ht
  · rintro (⟨e, he, ht⟩ | ht)
    · exact ⟨e, .inl he, ht⟩
    · exact ⟨w.edge, .inr rfl, ht⟩

/-- A topic that has a thread needs no other one. -/
theorem Dispatched.wired_of_mem (h : rs.Dispatched given) {w : Wire}
    (hknown : w.topic ∈ rs.bus.topics) :
    (rs.wired w (rs.bus.join w.topic w.target) rs.threads).Dispatched given := by
  have htopics : (rs.bus.join w.topic w.target).topics = rs.bus.topics := by
    rw [Bus.topics_join, if_pos hknown]
  refine ⟨(Bus.closed_join ..).trans h.isOpen, ?_, ?_, fun t => ?_, ?_⟩
  · exact htopics ▸ h.nodup
  · exact htopics ▸ h.named
  · rw [sources_wired, ← h.sources, wired, htopics]
    exact ⟨.inl, fun ht => ht.elim id fun ht => ht ▸ hknown⟩
  · exact htopics ▸ h.left

/-- A topic that has none gets one when it is first subscribed to. -/
theorem Dispatched.wired_of_start (h : rs.Dispatched given) {w : Wire}
    (hnew : w.topic ∉ rs.bus.topics) (hnamed : w.topic.Nameable) {threads : Threads}
    (hleave : given.Leave (rs.bus.topics.length + 1) threads) :
    (rs.wired w (rs.bus.join w.topic w.target) threads).Dispatched given := by
  have htopics : (rs.bus.join w.topic w.target).topics = rs.bus.topics ++ [w.topic] := by
    rw [Bus.topics_join, if_neg hnew]
  refine ⟨(Bus.closed_join ..).trans h.isOpen, ?_, fun t ht => ?_, fun t => ?_, ?_⟩
  · rw [wired, htopics, ← List.concat_eq_append]
    exact h.nodup.concat hnew
  · rw [wired, htopics] at ht
    rcases List.mem_append.mp ht with ht | ht
    · exact h.named t ht
    · exact List.mem_singleton.mp ht ▸ hnamed
  · rw [sources_wired, ← h.sources, wired, htopics, List.mem_append, List.mem_singleton,
      eq_comm (a := t)]
  · rw [wired, htopics, List.length_append]
    exact hleave

/-- Where all topics that edges leave have a thread, and another one as well, there is one more. -/
theorem Dispatched.allow_succ (h : rs.Dispatched given) {topic : Topic}
    (hnew : topic ∉ rs.bus.topics)
    (hneeds : given.Suffice fun t => (∃ e ∈ rs.downstream, e.source = t) ∨ topic = t) :
    given.Allow (rs.bus.topics.length + 1) := by
  have hnodup : (topic :: rs.bus.topics).Nodup := List.nodup_cons.mpr ⟨hnew, h.nodup⟩
  have hallow := hneeds _ hnodup fun t ht => by
    rcases List.mem_cons.mp ht with rfl | ht
    · exact .inr rfl
    · exact .inl ((h.sources t).mp ht)
  rwa [List.length_cons] at hallow

/-- A subscription needs a thread if its topic has none. -/
theorem Dispatched.subscribe (h : rs.Dispatched given) (w : Wire) :
    (w.topic.Nameable ∧ ∃ threads,
      rs.bus.subscribe rs.threads w.topic w.target =
        .ok (rs.bus.join w.topic w.target, threads) ∧
      (rs.wired w (rs.bus.join w.topic w.target) threads).Dispatched given) ∨
    (∃ refusal, rs.bus.subscribe rs.threads w.topic w.target = .error refusal) ∧
      ¬ (w.topic.Nameable ∧
        given.Suffice fun t => (∃ e ∈ rs.downstream, e.source = t) ∨ w.topic = t) := by
  have hopen : ¬ rs.bus.closed = true := by simp [h.isOpen]
  by_cases hknown : w.topic ∈ rs.bus.topics
  · refine .inl ⟨h.named _ hknown, rs.threads, ?_, h.wired_of_mem hknown⟩
    rw [Bus.subscribe, if_neg hopen, if_pos (Bus.isSome_channel?.mpr hknown)]
  · have hnew : ¬ (rs.bus.channel? w.topic).isSome = true := fun hsome =>
      hknown (Bus.isSome_channel?.mp hsome)
    by_cases hnul : '\x00' ∈ w.topic.text.toList
    · refine .inr ⟨⟨.badName, ?_⟩, fun hneeds => hneeds.1 hnul⟩
      rw [Bus.subscribe, if_neg hopen, if_neg hnew, if_pos hnul]
    · rcases h.left.start with ⟨next, hstart, hleave⟩ | ⟨⟨reason, hstart⟩, hrefused⟩
      · refine .inl ⟨hnul, next, ?_, h.wired_of_start hknown hnul hleave⟩
        rw [Bus.subscribe, if_neg hopen, if_neg hnew, if_neg hnul, hstart]
      · refine .inr ⟨⟨.noThread reason, ?_⟩, fun hneeds => ?_⟩
        · rw [Bus.subscribe, if_neg hopen, if_neg hnew, if_neg hnul, hstart]
        · exact hrefused (h.allow_succ hknown hneeds.2)

/-- Wires are connected just when a thread can be named after each topic and there are enough for
all topics that edges leave then. -/
theorem Dispatched.connect (h : rs.Dispatched given) (wires : List Wire) :
    ((∀ w ∈ wires, w.topic.Nameable) ∧
      ∃ rs', rs.connect wires = (.ok (), rs') ∧ rs'.Dispatched given) ∨
    (∃ e rs', rs.connect wires = (.error e, rs')) ∧
      ¬ ((∀ w ∈ wires, w.topic.Nameable) ∧
        given.Suffice fun t => ∃ e ∈ rs.downstream ++ wires.map Wire.edge, e.source = t) := by
  induction wires generalizing rs with
  | nil => exact .inl ⟨by simp, rs, rfl, h⟩
  | cons w rest ih =>
    rw [Ruleset.connect]
    rcases h.subscribe w with ⟨hnamed, threads, hjoined, hwired⟩ | ⟨⟨refusal, hrefused⟩, hlacks⟩
    · simp only [hjoined]
      rcases ih hwired with ⟨hrest, hok⟩ | ⟨herror, hlacks⟩
      · exact .inl ⟨List.forall_mem_cons.mpr ⟨hnamed, hrest⟩, hok⟩
      · refine .inr ⟨herror, fun hneeds => hlacks ⟨fun v hv => ?_, hneeds.2.mono fun t ht => ?_⟩⟩
        · exact hneeds.1 v (List.mem_cons_of_mem w hv)
        · obtain ⟨e, he, ht⟩ := ht
          rcases List.mem_append.mp he with he | he
          · rcases (sources_wired t).mp ⟨e, he, ht⟩ with ⟨e, he, ht⟩ | ht
            · exact ⟨e, List.mem_append_left _ he, ht⟩
            · exact ⟨w.edge, by simp, ht⟩
          · exact ⟨e, by simp [List.mem_map.mp he], ht⟩
    · simp only [hrefused]
      refine .inr ⟨⟨_, _, rfl⟩, fun hneeds => hlacks ⟨hneeds.1 w (by simp), ?_⟩⟩
      refine hneeds.2.mono fun t ht => ?_
      rcases ht with ⟨e, he, ht⟩ | ht
      · exact ⟨e, List.mem_append_left _ he, ht⟩
      · exact ⟨w.edge, by simp, ht⟩

end Ruleset
end RuleGraph
