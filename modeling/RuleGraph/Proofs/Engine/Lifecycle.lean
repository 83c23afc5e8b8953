import Mathlib.Data.List.Nodup
import RuleGraph.Proofs.Engine.Session
import RuleGraph.Proofs.Graph.History

/-!
# The life of a producer's loop

`Sound` says how the loops, the feeders, the lock and the signals of a session belong together; it
holds whatever is done, and in whatever order. So a producer never has two loops at once, whoever
takes the lock finds all of them listed, a stop reaches all that it finds, and it reaches none that
begins later.
-/
namespace RuleGraph

namespace Engine

theorem feeder_setFeeder (e : Engine) (id : NodeId) (f : Feeder) (other : NodeId) :
    (e.setFeeder id f).feeder other = if other = id then f else e.feeder other := by
  by_cases heq : other = id
  · simp [feeder, setFeeder, heq]
  · have hsame : (fun g : NodeId × Feeder => !decide (g.1 = id) && decide (g.1 = other)) =
        fun g => decide (g.1 = other) := by
      funext g
      by_cases hg : g.1 = other <;> simp [hg, heq]
    simp [feeder, setFeeder, heq, Ne.symm heq, List.find?_filter, hsame]

/-- What is kept for a producer stays but for what is set. -/
theorem feeder_setFeeder_congr {α : Type} (g : Feeder → α) {e : Engine} {id : NodeId} {f : Feeder}
    (hg : g f = g (e.feeder id)) (other : NodeId) :
    g ((e.setFeeder id f).feeder other) = g (e.feeder other) := by
  rw [feeder_setFeeder]
  split
  · rename_i heq
    rw [heq, hg]
  · rfl

theorem loops_setFeeder (e : Engine) (id : NodeId) (f : Feeder) :
    (e.setFeeder id f).loops = e.loops := rfl

theorem feeder_stop (e : Engine) (id other : NodeId) :
    (e.stop id).feeder other =
      if other = id then { e.feeder id with stoppable := none } else e.feeder other := by
  cases hstop : (e.feeder id).stoppable with
  | none =>
    simp only [stop, hstop]
    split
    · rename_i heq
      rw [heq, ← hstop]
    · rfl
  | some i =>
    simp only [stop, hstop, feeder_setFeeder]
    rfl

theorem feeder_stop_congr {α : Type} (g : Feeder → α)
    (hg : ∀ f : Feeder, g { f with stoppable := none } = g f) (e : Engine) (id other : NodeId) :
    g ((e.stop id).feeder other) = g (e.feeder other) := by
  rw [feeder_stop]
  split
  · rename_i heq
    rw [heq, hg]
  · rfl

theorem getElem?_loops_stop (e : Engine) (id : NodeId) (i : Nat) :
    (e.stop id).loops[i]? = (e.loops[i]?).map fun loop =>
      if (e.feeder id).stoppable = some i then { loop with stopRequested := true } else loop := by
  cases hstop : (e.feeder id).stoppable with
  | none => simp [stop, hstop]
  | some j =>
    simp only [stop, hstop, loops_setFeeder, List.getElem?_modify, Option.some.injEq]
    rfl

theorem length_loops_stop (e : Engine) (id : NodeId) :
    (e.stop id).loops.length = e.loops.length := by
  rw [stop]
  split
  · rfl
  · simp [loops_setFeeder]

theorem started_stop (e : Engine) (id : NodeId) : (e.stop id).started = e.started := by
  rw [stop]
  split <;> rfl

/-- A loop of a producer that does not run begins behind all others. -/
theorem beginLoop_of_idle {e : Engine} {n : ProducerNode}
    (h : (e.feeder n.id).running = false) :
    (e.beginLoop n).2.loops = e.loops ++ [⟨n, .waiting n.program.start, false⟩] ∧
    (∀ id, (e.beginLoop n).2.feeder id =
      if id = n.id then ⟨true, some e.loops.length, some e.loops.length⟩ else e.feeder id) ∧
    (e.beginLoop n).2.started = e.started := by
  simp only [beginLoop, h]
  exact ⟨rfl, fun id => feeder_setFeeder _ n.id _ id, rfl⟩

end Engine

namespace Session

/-! ### What holds in every session -/

/-- A loop that has begun is one of a producer. -/
def Owns (s : Session) (i : Nat) (id : NodeId) : Prop :=
  ∃ loop, s.engine.loops[i]? = some loop ∧ loop.producer.id = id

/-- A loop of a producer has begun, and its thread is not gone. -/
def Runs (s : Session) (i : Nat) (id : NodeId) : Prop := s.Owns i id ∧ s.gone i = false

variable {s : Session}

theorem Owns.lt {i : Nat} {id : NodeId} (h : s.Owns i id) : i < s.engine.loops.length := by
  obtain ⟨loop, hloop, -⟩ := h
  exact (List.getElem?_eq_some_iff.mp hloop).1

/-- How the loops, the feeders, the lock and the signals belong together. -/
structure Sound (s : Session) : Prop where
  /-- Only loops that have ended leave. -/
  ended : ∀ i, s.gone i = true →
    ∃ loop, s.engine.loops[i]? = some loop ∧ Engine.hasEnded loop.progress = true
  running : ∀ i id, s.Runs i id → (s.engine.feeder id).running = true
  single : ∀ i j id, s.Runs i id → s.Runs j id → i = j
  fresh : ∀ i, s.engine.loops.length ≤ i → s.signal i = .fresh
  stoppable : ∀ id i, (s.engine.feeder id).stoppable = some i → s.Owns i id
  /-- A loop that was not told to stop can be told; one that was told began before the last stop. -/
  signal : ∀ i id, s.Runs i id →
    (s.engine.feeder id).stoppable = some i ∧ s.signal i = .fresh ∨
      (s.signal i).connected = false ∧ i < s.asked
  told : ∀ i loop, s.engine.loops[i]? = some loop → s.gone i = false →
    loop.stopRequested = !(s.signal i).connected
  listed : ∀ i id, s.Runs i id → id ∈ s.engine.started ∨ s.lock.begun? = some id
  nodup : s.engine.started.Nodup
  stopping : ∀ k left alive, s.lock = .stopping k left alive →
    s.asked = s.engine.loops.length ∧ ∀ i ∈ alive, (s.signal i).connected = false ∨
      ∃ id ∈ left, (s.engine.feeder id).stoppable = some i
  stopped : ∀ k alive, s.call k = .stopped alive → ∀ i ∈ alive, (s.signal i).connected = false

theorem sound_opened (rs : Ruleset) : (opened rs).Sound := by
  have hnone (i : Nat) (id : NodeId) : ¬(opened rs).Owns i id := by
    rintro ⟨loop, hloop, -⟩
    simp [opened, Engine.new] at hloop
  refine ⟨?_, ?_, ?_, ?_, ?_, ?_, ?_, ?_, ?_, ?_, ?_⟩
  · simp [opened]
  · exact fun i id h => absurd h.1 (hnone i id)
  · exact fun i j id h => absurd h.1 (hnone i id)
  · exact fun _ _ => rfl
  · simp [opened, Engine.new, Engine.feeder, Feeder.idle]
  · exact fun i id h => absurd h.1 (hnone i id)
  · simp [opened, Engine.new]
  · exact fun i id h => absurd h.1 (hnone i id)
  · simp [opened, Engine.new]
  · simp [opened]
  · simp [opened]

theorem Sound.setCall (h : s.Sound) (k : Nat) {c : Call}
    (hstopped : ∀ alive, c = .stopped alive → ∀ i ∈ alive, (s.signal i).connected = false) :
    (s.setCall k c).Sound := by
  refine ⟨h.ended, h.running, h.single, h.fresh, h.stoppable, h.signal, h.told, h.listed, h.nodup,
    h.stopping, fun j alive hj => ?_⟩
  simp only [Session.setCall, Function.update_apply] at hj
  split at hj
  · exact hstopped alive hj
  · exact h.stopped j alive hj

/-- Engines whose loops are the same, but for some that may have gone on. -/
structure SameLoops (e e' : Engine) : Prop where
  length : e'.loops.length = e.loops.length
  loops : ∀ (i : Nat) (loop : Loop), e'.loops[i]? = some loop → ∃ before,
    e.loops[i]? = some before ∧ loop.producer = before.producer ∧
    loop.stopRequested = before.stopRequested ∧
    (Engine.hasEnded before.progress = true → Engine.hasEnded loop.progress = true)

theorem SameLoops.of_eq {e e' : Engine} (h : e'.loops = e.loops) : SameLoops e e' :=
  ⟨by rw [h], fun i loop hloop => ⟨loop, h ▸ hloop, rfl, rfl, id⟩⟩

/-- A loop that has not ended goes on. -/
theorem SameLoops.set {e e' : Engine} {i : Nat} {loop : Loop} (hloop : e.loops[i]? = some loop)
    (hgoing : Engine.hasEnded loop.progress = false) (progress : Producer.Progress)
    (h : e'.loops = e.loops.set i { loop with progress }) : SameLoops e e' := by
  refine ⟨by rw [h, List.length_set], fun j after hafter => ?_⟩
  rw [h, List.getElem?_set] at hafter
  split at hafter
  · rename_i heq
    subst heq
    split at hafter
    · cases hafter
      exact ⟨loop, hloop, rfl, rfl, fun hended => by simp [hgoing] at hended⟩
    · cases hafter
  · exact ⟨after, hafter, rfl, rfl, id⟩

theorem SameLoops.exists_loop {e e' : Engine} (h : SameLoops e e') {i : Nat} {before : Loop}
    (hbefore : e.loops[i]? = some before) :
    ∃ loop, e'.loops[i]? = some loop ∧ loop.producer = before.producer ∧
      (Engine.hasEnded before.progress = true → Engine.hasEnded loop.progress = true) := by
  have hlt : i < e'.loops.length := h.length ▸ (List.getElem?_eq_some_iff.mp hbefore).1
  have hloop := List.getElem?_eq_getElem hlt
  obtain ⟨before', hbefore', hproducer, -, hended⟩ := h.loops i _ hloop
  rw [hbefore] at hbefore'
  cases hbefore'
  exact ⟨_, hloop, hproducer, hended⟩

theorem SameLoops.owns_iff {e : Engine} (h : SameLoops s.engine e) {lock : Lock} (i : Nat)
    (id : NodeId) : ({ s with engine := e, lock } : Session).Owns i id ↔ s.Owns i id := by
  constructor
  · rintro ⟨loop, hloop, rfl⟩
    obtain ⟨before, hbefore, hproducer, -⟩ := h.loops i loop hloop
    exact ⟨before, hbefore, by rw [hproducer]⟩
  · rintro ⟨before, hbefore, rfl⟩
    obtain ⟨loop, hloop, hproducer, -⟩ := h.exists_loop hbefore
    exact ⟨loop, hloop, by rw [hproducer]⟩

/-- What has to be seen of a change that begins no loop, ends no thread and touches no signal. -/
theorem Sound.setEngine (h : s.Sound) {e : Engine} {lock : Lock} (hsame : SameLoops s.engine e)
    (hrunning : ∀ id, (e.feeder id).running = (s.engine.feeder id).running)
    (hstoppable : ∀ id, (e.feeder id).stoppable = (s.engine.feeder id).stoppable)
    (hlisted : ∀ i id, s.Runs i id → id ∈ e.started ∨ lock.begun? = some id)
    (hnodup : e.started.Nodup)
    (hstopping : ∀ k left alive, lock = .stopping k left alive → s.lock = lock) :
    ({ s with engine := e, lock } : Session).Sound := by
  have howns (i : Nat) (id : NodeId) : ({ s with engine := e, lock } : Session).Owns i id ↔
      s.Owns i id := hsame.owns_iff i id
  have hruns (i : Nat) (id : NodeId) (hr : ({ s with engine := e, lock } : Session).Runs i id) :
      s.Runs i id := ⟨(howns i id).mp hr.1, hr.2⟩
  refine ⟨fun i hgone => ?_, fun i id hr => ?_, fun i j id hi hj => ?_, fun i hi => ?_,
    fun id i hi => ?_, fun i id hr => ?_, fun i loop hloop hgone => ?_, fun i id hr => ?_, hnodup,
    fun k left alive hlock => ?_, h.stopped⟩
  · obtain ⟨before, hbefore, hended⟩ := h.ended i hgone
    obtain ⟨loop, hloop, -, hkeeps⟩ := hsame.exists_loop hbefore
    exact ⟨loop, hloop, hkeeps hended⟩
  · exact (hrunning id).trans (h.running i id (hruns i id hr))
  · exact h.single i j id (hruns i id hi) (hruns j id hj)
  · exact h.fresh i (hsame.length ▸ hi)
  · exact (howns i id).mpr (h.stoppable id i ((hstoppable id).symm.trans hi))
  · rw [hstoppable id]
    exact h.signal i id (hruns i id hr)
  · obtain ⟨before, hbefore, -, htold, -⟩ := hsame.loops i loop hloop
    exact htold.trans (h.told i before hbefore hgone)
  · exact hlisted i id (hruns i id hr)
  · have hbefore := h.stopping k left alive ((hstopping k left alive hlock).trans hlock)
    simp only [hstoppable, hsame.length]
    exact hbefore

/-- A stop that takes the lock finds every loop listed that is alive. -/
theorem Sound.stop (h : s.Sound) (k : Nat) (hfree : s.lock = .free) :
    ({ s with
      lock := .stopping k s.engine.started s.alive
      asked := s.engine.loops.length } : Session).Sound := by
  refine ⟨h.ended, h.running, h.single, h.fresh, h.stoppable, fun i id hr => ?_, h.told,
    fun i id hr => ?_, h.nodup, fun j left alive hlock => ?_, h.stopped⟩
  · exact (h.signal i id hr).imp_right fun htold => ⟨htold.1, hr.1.lt⟩
  · have hlisted := h.listed i id hr
    simpa [hfree, Lock.begun?] using hlisted
  · cases hlock
    refine ⟨rfl, fun i hi => ?_⟩
    obtain ⟨hlt, hgone⟩ : i < s.engine.loops.length ∧ s.gone i = false := by
      simpa [Session.alive] using hi
    have hr : s.Runs i (s.engine.loops[i]).producer.id :=
      ⟨⟨_, List.getElem?_eq_getElem hlt, rfl⟩, hgone⟩
    have hlisted := h.listed i _ hr
    simp only [hfree, Lock.begun?, reduceCtorEq, or_false] at hlisted
    rcases h.signal i _ hr with ⟨hstoppable, -⟩ | ⟨htold, -⟩
    · exact .inr ⟨_, hlisted, hstoppable⟩
    · exact .inl htold

theorem connected_signalled {id : NodeId} {f : Signal → Signal}
    (hf : ∀ signal, (f signal).connected = false) {i : Nat} (h : (s.signal i).connected = false) :
    (s.signalled id f i).connected = false := by
  rw [signalled]
  split
  · exact hf _
  · exact h

theorem owns_begin {n : ProducerNode} (hidle : (s.engine.feeder n.id).running = false) (i : Nat)
    (id : NodeId) :
    (s.begin n).Owns i id ↔ s.Owns i id ∨ i = s.engine.loops.length ∧ id = n.id := by
  simp only [Owns, Session.begin, (Engine.beginLoop_of_idle hidle).1]
  rcases Nat.lt_trichotomy i s.engine.loops.length with hlt | rfl | hgt
  · simp [List.getElem?_append_left hlt, Nat.ne_of_lt hlt]
  · simp [eq_comm]
  · have hnone : (s.engine.loops ++ [⟨n, .waiting n.program.start, false⟩])[i]? = none :=
      List.getElem?_eq_none_iff.mpr (by simpa using Nat.succ_le_of_lt hgt)
    have hnone' : s.engine.loops[i]? = none := List.getElem?_eq_none_iff.mpr (Nat.le_of_lt hgt)
    simp [hnone, hnone', (Nat.ne_of_lt hgt).symm]

theorem Sound.runs_begin (h : s.Sound) {n : ProducerNode}
    (hidle : (s.engine.feeder n.id).running = false) {i : Nat} {id : NodeId}
    (hr : (s.begin n).Runs i id) :
    s.Runs i id ∧ id ≠ n.id ∨ i = s.engine.loops.length ∧ id = n.id := by
  refine ((owns_begin hidle i id).mp hr.1).imp_left fun hold => ⟨⟨hold, hr.2⟩, ?_⟩
  rintro rfl
  simp [h.running i _ ⟨hold, hr.2⟩] at hidle

/-- The channel that is given up is one of a loop that is gone. -/
theorem Sound.signal_begin (h : s.Sound) {n : ProducerNode}
    (hidle : (s.engine.feeder n.id).running = false) {i : Nat}
    (hi : s.gone i = false ∨ s.engine.loops.length ≤ i) : (s.begin n).signal i = s.signal i := by
  refine if_neg fun hgiven => ?_
  have hown := h.stoppable _ _ hgiven
  rcases hi with hgone | hge
  · simp [h.running i _ ⟨hown, hgone⟩] at hidle
  · exact absurd hown.lt (Nat.not_lt.mpr hge)

/-- A loop that begins while none of its producer runs is the only one. -/
theorem Sound.begin (h : s.Sound) {n : ProducerNode}
    (hidle : (s.engine.feeder n.id).running = false) {k count : Nat} {left : List ProducerNode}
    (hlock : s.lock.begun? = none) :
    ({ s.begin n with lock := .starting k left (some n.id) count } : Session).Sound := by
  obtain ⟨hloops, hfeeder, hstarted⟩ := Engine.beginLoop_of_idle hidle
  have howns := owns_begin (s := s) hidle
  have hget {i : Nat} {loop : Loop} (hloop : s.engine.loops[i]? = some loop) :
      (s.engine.beginLoop n).2.loops[i]? = some loop := by
    rw [hloops, List.getElem?_append_left (List.getElem?_eq_some_iff.mp hloop).1, hloop]
  refine ⟨fun i hgone => ?_, fun i id hr => ?_, fun i j id hi hj => ?_, fun i hi => ?_,
    fun id i hi => ?_, fun i id hr => ?_, fun i loop hloop hgone => ?_, fun i id hr => ?_, ?_,
    fun j left alive hlock => (by cases hlock), fun j alive hj i hi => ?_⟩
  · obtain ⟨loop, hloop, hended⟩ := h.ended i hgone
    exact ⟨loop, hget hloop, hended⟩
  · change ((s.engine.beginLoop n).2.feeder id).running = true
    rw [hfeeder]
    rcases h.runs_begin hidle hr with ⟨hold, hne⟩ | ⟨-, rfl⟩
    · rw [if_neg hne]
      exact h.running i id hold
    · rw [if_pos rfl]
  · rcases h.runs_begin hidle hi with ⟨hi, hne⟩ | ⟨rfl, rfl⟩ <;>
      rcases h.runs_begin hidle hj with ⟨hj, hne'⟩ | ⟨rfl, hid⟩
    · exact h.single i j id hi hj
    · exact absurd hid hne
    · exact absurd rfl hne'
    · rfl
  · have hi : s.engine.loops.length + 1 ≤ i := by
      simpa [Session.begin, hloops] using hi
    have hge := Nat.le_of_succ_le hi
    exact (h.signal_begin hidle (.inr hge)).trans (h.fresh i hge)
  · refine (howns i id).mpr ?_
    change ((s.engine.beginLoop n).2.feeder id).stoppable = some i at hi
    rw [hfeeder] at hi
    split at hi
    · rename_i heq
      exact .inr ⟨(Option.some.inj hi).symm, heq⟩
    · exact .inl (h.stoppable id i hi)
  · change ((s.engine.beginLoop n).2.feeder id).stoppable = some i ∧ (s.begin n).signal i = .fresh ∨
      ((s.begin n).signal i).connected = false ∧ i < s.asked
    rw [hfeeder, h.signal_begin hidle (.inl hr.2)]
    rcases h.runs_begin hidle hr with ⟨hold, hne⟩ | ⟨rfl, rfl⟩
    · rw [if_neg hne]
      exact h.signal i id hold
    · rw [if_pos rfl]
      exact .inl ⟨rfl, h.fresh _ (Nat.le_refl _)⟩
  · change (s.engine.beginLoop n).2.loops[i]? = some loop at hloop
    change loop.stopRequested = !((s.begin n).signal i).connected
    rw [h.signal_begin hidle (.inl hgone)]
    rw [hloops, List.getElem?_append] at hloop
    split at hloop
    · exact h.told i loop hloop hgone
    · rename_i hge
      rw [h.fresh i (Nat.not_lt.mp hge)]
      rw [List.getElem?_singleton] at hloop
      split at hloop
      · cases hloop
        rfl
      · cases hloop
  · change id ∈ (s.engine.beginLoop n).2.started ∨ some n.id = some id
    rw [hstarted]
    rcases h.runs_begin hidle hr with ⟨hold, -⟩ | ⟨-, rfl⟩
    · exact .inl ((h.listed i id hold).resolve_right (by simp [hlock]))
    · exact .inr rfl
  · change (s.engine.beginLoop n).2.started.Nodup
    rw [hstarted]
    exact h.nodup
  · exact connected_signalled (fun _ => rfl) (h.stopped j alive hj i hi)

theorem owns_request (s : Session) (id : NodeId) (i : Nat) (other : NodeId) :
    (s.request id).Owns i other ↔ s.Owns i other := by
  simp only [Owns, Session.request, Engine.getElem?_loops_stop, Option.map_eq_some_iff]
  constructor
  · rintro ⟨_, ⟨loop, hloop, rfl⟩, rfl⟩
    exact ⟨loop, hloop, by split <;> rfl⟩
  · rintro ⟨loop, hloop, rfl⟩
    exact ⟨_, ⟨loop, hloop, rfl⟩, by split <;> rfl⟩

theorem connected_request {id : NodeId} {i : Nat}
    (h : (s.engine.feeder id).stoppable = some i) : ((s.request id).signal i).connected = false := by
  simp [Session.request, signalled, h, Signal.request]

/-- Who holds the lock to stop producers tells the loop of one of them. -/
theorem Sound.request (h : s.Sound) {k : Nat} {id : NodeId} {left : List NodeId} {alive : List Nat}
    (hlock : s.lock = .stopping k (id :: left) alive) :
    ({ s.request id with lock := .stopping k left alive } : Session).Sound := by
  obtain ⟨hasked, halive⟩ := h.stopping k _ alive hlock
  have hloops := s.engine.getElem?_loops_stop id
  have hfeeder := s.engine.feeder_stop id
  have howns := s.owns_request id
  have hruns (i : Nat) (other : NodeId) (hr : (s.request id).Runs i other) : s.Runs i other :=
    ⟨(howns i other).mp hr.1, hr.2⟩
  have hother {i : Nat} (hi : (s.engine.feeder id).stoppable ≠ some i) :
      (s.request id).signal i = s.signal i := if_neg hi
  refine ⟨fun i hgone => ?_, fun i other hr => ?_, fun i j other hi hj => ?_, fun i hi => ?_,
    fun other i hi => ?_, fun i other hr => ?_, fun i loop hloop hgone => ?_, fun i other hr => ?_,
    ?_, fun j left' alive' heq => ?_, fun j alive hj i hi => ?_⟩
  · obtain ⟨loop, hloop, hended⟩ := h.ended i hgone
    refine ⟨_, by rw [Session.request, hloops, hloop, Option.map_some], ?_⟩
    split <;> exact hended
  · change ((s.engine.stop id).feeder other).running = true
    rw [Engine.feeder_stop_congr Feeder.running fun _ => rfl]
    exact h.running i other (hruns i other hr)
  · exact h.single i j other (hruns i other hi) (hruns j other hj)
  · have hi : s.engine.loops.length ≤ i := s.engine.length_loops_stop id ▸ hi
    refine (hother fun heq => ?_).trans (h.fresh i hi)
    exact absurd (h.stoppable id i heq).lt (Nat.not_lt.mpr hi)
  · change ((s.engine.stop id).feeder other).stoppable = some i at hi
    rw [hfeeder] at hi
    split at hi
    · cases hi
    · exact (howns i other).mpr (h.stoppable other i hi)
  · change ((s.engine.stop id).feeder other).stoppable = some i ∧ (s.request id).signal i = .fresh ∨
      ((s.request id).signal i).connected = false ∧ i < s.asked
    have hr := hruns i other hr
    rw [hfeeder]
    by_cases hi : (s.engine.feeder id).stoppable = some i
    · exact .inr ⟨connected_request hi, hasked ▸ hr.1.lt⟩
    · rw [hother hi]
      refine (h.signal i other hr).imp_left fun hto => ?_
      have hne : other ≠ id := by
        rintro rfl
        exact hi hto.1
      rwa [if_neg hne]
  · change (s.engine.stop id).loops[i]? = some loop at hloop
    change loop.stopRequested = !((s.request id).signal i).connected
    rw [hloops] at hloop
    obtain ⟨before, hbefore, rfl⟩ := Option.map_eq_some_iff.mp hloop
    split
    · rename_i hi
      rw [connected_request hi]
      rfl
    · rename_i hi
      rw [hother hi]
      exact h.told i before hbefore hgone
  · change other ∈ (s.engine.stop id).started ∨ _
    rw [s.engine.started_stop]
    refine (h.listed i other (hruns i other hr)).imp_right fun hbegun => ?_
    simp [hlock, Lock.begun?] at hbegun
  · change (s.engine.stop id).started.Nodup
    rw [s.engine.started_stop]
    exact h.nodup
  · cases heq
    refine ⟨hasked.trans (s.engine.length_loops_stop id).symm, fun i hi => ?_⟩
    by_cases hstop : (s.engine.feeder id).stoppable = some i
    · exact .inl (connected_request hstop)
    · rcases halive i hi with hsignal | ⟨other, hmem, hstoppable⟩
      · exact .inl ((congrArg Signal.connected (hother hstop)).trans hsignal)
      · have hne : other ≠ id := by
          rintro rfl
          exact hstop hstoppable
        refine .inr ⟨other, (List.mem_cons.mp hmem).resolve_left hne, ?_⟩
        change ((s.engine.stop id).feeder other).stoppable = some i
        rw [hfeeder, if_neg hne]
        exact hstoppable
  · exact connected_signalled (fun _ => rfl) (h.stopped j alive hj i hi)

theorem Sound.ask (h : s.Sound) (i : Nat) : (s.ask i).Sound := by
  have hsignal (j : Nat) : (s.ask i).signal j = if j = i then (s.signal i).ask.2 else s.signal j :=
    Function.update_apply ..
  have hconnected (j : Nat) : ((s.ask i).signal j).connected = (s.signal j).connected := by
    rw [hsignal]
    split
    · rename_i heq
      rw [heq, Signal.connected_ask]
    · rfl
  have hfresh (j : Nat) (hj : s.signal j = .fresh) : (s.ask i).signal j = .fresh := by
    rw [hsignal]
    split
    · rename_i heq
      rw [← heq, hj]
      rfl
    · exact hj
  refine ⟨h.ended, h.running, h.single, fun j hj => hfresh j (h.fresh j hj), h.stoppable,
    fun j id hr => ?_, fun j loop hloop hgone => ?_, h.listed, h.nodup,
    fun k left alive hlock => ?_, fun k alive hk j hj => ?_⟩
  · rw [hconnected]
    exact (h.signal j id hr).imp_left fun hto => ⟨hto.1, hfresh j hto.2⟩
  · rw [hconnected]
    exact h.told j loop hloop hgone
  · simp only [hconnected]
    exact h.stopping k left alive hlock
  · rw [hconnected]
    exact h.stopped k alive hk j hj

theorem stays_of_update {gone : Nat → Bool} {i j : Nat}
    (h : Function.update gone i true j = false) : j ≠ i ∧ gone j = false := by
  rw [Function.update_apply] at h
  split at h
  · cases h
  · rename_i hne
    exact ⟨hne, h⟩

theorem Sound.leave (h : s.Sound) (i : Nat) : (s.leave i).Sound := by
  unfold Session.leave
  split
  · rename_i loop hloop
    split
    · rename_i hcond
      obtain ⟨hended, hgone⟩ : Engine.hasEnded loop.progress = true ∧ s.gone i = false := by
        simpa using hcond
      have hri : s.Runs i loop.producer.id := ⟨⟨loop, hloop, rfl⟩, hgone⟩
      have hfeeder := s.engine.feeder_setFeeder loop.producer.id
        { s.engine.feeder loop.producer.id with running := false }
      have hstoppable (id : NodeId) : ((s.engine.setFeeder loop.producer.id
          { s.engine.feeder loop.producer.id with running := false }).feeder id).stoppable =
            (s.engine.feeder id).stoppable :=
        Engine.feeder_setFeeder_congr Feeder.stoppable (by rfl) id
      refine ⟨fun j hj => ?_, fun j id hr => ?_, fun j k id hj hk => ?_, h.fresh,
        fun id j hj => ?_, fun j id hr => ?_, fun j loop hloop hj => ?_, fun j id hr => ?_, h.nodup,
        fun k left alive hlock => ?_, h.stopped⟩
      · by_cases heq : j = i
        · subst heq
          exact ⟨loop, hloop, hended⟩
        · exact h.ended j (by simpa [Function.update_apply, heq] using hj)
      · obtain ⟨hne, hj⟩ := stays_of_update hr.2
        have hother : id ≠ loop.producer.id := by
          rintro rfl
          exact hne (h.single j i _ ⟨hr.1, hj⟩ hri)
        simp only [hfeeder, if_neg hother]
        exact h.running j id ⟨hr.1, hj⟩
      · exact h.single j k id ⟨hj.1, (stays_of_update hj.2).2⟩ ⟨hk.1, (stays_of_update hk.2).2⟩
      · rw [hstoppable] at hj
        exact h.stoppable id j hj
      · rw [hstoppable]
        exact h.signal j id ⟨hr.1, (stays_of_update hr.2).2⟩
      · exact h.told j loop hloop (stays_of_update hj).2
      · exact h.listed j id ⟨hr.1, (stays_of_update hr.2).2⟩
      · simp only [hstoppable]
        exact h.stopping k left alive hlock
    · exact h
  · exact h

theorem Sound.work (h : s.Sound) (i : Nat) (messages : List Message)
    (progress : Producer.Progress) : (s.work i messages progress).Sound := by
  unfold Session.work
  split
  · rename_i loop hloop
    split
    · exact h
    · rename_i hgoing
      exact h.setEngine (.set hloop (by simpa using hgoing) progress rfl) (fun _ => rfl)
        (fun _ => rfl) h.listed h.nodup fun _ _ _ _ => rfl
  · exact h

theorem Sound.tellPanic (h : s.Sound) (i : Nat) : (s.tellPanic i).Sound := by
  unfold Session.tellPanic
  split
  · exact h.setEngine (.of_eq rfl) (fun _ => rfl) (fun _ => rfl) h.listed h.nodup
      fun _ _ _ _ => rfl
  · exact h

/-- A handle may be given away. -/
theorem Sound.giveHandle (h : s.Sound) (id : NodeId) {lock : Lock}
    (hlisted : ∀ i id, s.Runs i id → id ∈ s.engine.started ∨ lock.begun? = some id)
    (hstopping : ∀ k left alive, lock = .stopping k left alive → s.lock = lock) :
    ({ s with
      engine := s.engine.setFeeder id { s.engine.feeder id with unjoined := none }
      lock } : Session).Sound := by
  exact h.setEngine (.of_eq rfl) (Engine.feeder_setFeeder_congr Feeder.running rfl)
    (Engine.feeder_setFeeder_congr Feeder.stoppable rfl) hlisted h.nodup hstopping

theorem Sound.prune (h : s.Sound) : s.prune.Sound := by
  refine h.setEngine (.of_eq rfl) (fun _ => rfl) (fun _ => rfl) (fun i id hr => ?_)
    (h.nodup.filter _) fun _ _ _ _ => rfl
  refine (h.listed i id hr).imp_left fun hmem => ?_
  simpa using ⟨hmem, h.running i id hr⟩

theorem mem_started_enlist {id other : NodeId} :
    other ∈ (s.enlist id).engine.started ↔ other ∈ s.engine.started ∨ other = id := by
  simp only [enlist, List.contains_iff_mem]
  split
  · rename_i hmem
    exact ⟨.inl, fun h => h.elim (fun hother => hother) fun heq => heq ▸ hmem⟩
  · simp

theorem Sound.nodup_enlist (h : s.Sound) (id : NodeId) : (s.enlist id).engine.started.Nodup := by
  simp only [enlist, List.contains_iff_mem]
  split
  · exact h.nodup
  · rename_i hnew
    simpa using h.nodup.concat hnew

theorem Sound.make (h : s.Sound) (k : Nat) (order : Order) : (s.make k order).Sound := by
  unfold Session.make
  split
  · refine h.setCall k fun alive heq => ?_
    cases order <;> cases heq
  · exact h

theorem Sound.proceed (h : s.Sound) (k : Nat) : (s.proceed k).Sound := by
  have hcall {s : Session} (h : s.Sound) {c : Call} (hc : ∀ alive, c ≠ .stopped alive) :
      (s.setCall k c).Sound := h.setCall k fun alive heq => absurd heq (hc alive)
  unfold Session.proceed
  split
  · rename_i hfree
    refine hcall (h.setEngine (.of_eq rfl) (fun _ => rfl) (fun _ => rfl) (fun i id hr => ?_) h.nodup
      fun _ _ _ heq => by cases heq) (fun _ => nofun)
    simpa [hfree, Lock.begun?] using h.listed i id hr
  · rename_i hfree
    exact hcall (h.stop k hfree) fun _ => nofun
  · exact hcall h fun _ => nofun
  · exact hcall h fun _ => nofun
  · unfold Session.takeHandle
    split
    · exact hcall h fun _ => nofun
    · exact hcall (h.giveHandle _ h.listed fun _ _ _ _ => rfl) fun _ => nofun
  · split
    · exact hcall (h.tellPanic _) fun _ => nofun
    · exact h
  · exact hcall h.prune fun _ => nofun
  · exact h

theorem Sound.hold (h : s.Sound) (thread : Bool) : (s.hold thread).Sound := by
  unfold Session.hold
  split
  · exact h
  · rename_i k left id count hlock
    refine h.setEngine (.of_eq rfl) (fun _ => rfl) (fun _ => rfl) (fun i other hr => .inl ?_)
      (h.nodup_enlist id) fun _ _ _ heq => by cases heq
    have hlisted := h.listed i other hr
    simp only [hlock, Lock.begun?, Option.some.injEq] at hlisted
    exact mem_started_enlist.mpr (hlisted.imp_right Eq.symm)
  · rename_i k count hlock
    refine Sound.setCall ?_ k fun _ => nofun
    refine h.setEngine (.of_eq rfl) (fun _ => rfl) (fun _ => rfl) (fun i id hr => ?_) h.nodup
      fun _ _ _ heq => by cases heq
    simpa [hlock, Lock.begun?, Engine.note] using h.listed i id hr
  · rename_i k n left count hlock
    have hlisted (i : Nat) (id : NodeId) (hr : s.Runs i id) : id ∈ s.engine.started := by
      simpa [hlock, Lock.begun?] using h.listed i id hr
    split
    · exact h.setEngine (.of_eq rfl) (fun _ => rfl) (fun _ => rfl)
        (fun i id hr => .inl (hlisted i id hr)) h.nodup fun _ _ _ heq => by cases heq
    · rename_i hidle
      split
      · exact h.begin (by simpa using hidle) (by rw [hlock]; rfl)
      · refine Sound.setCall ?_ k fun _ => nofun
        exact h.giveHandle n.id (fun i id hr => .inl (hlisted i id hr)) fun _ _ _ heq => by
          cases heq
  · rename_i k alive hlock
    have halive := (h.stopping k [] alive hlock).2
    refine Sound.setCall ?_ k fun alive' heq i hi => ?_
    · refine h.setEngine (.of_eq rfl) (fun _ => rfl) (fun _ => rfl) (fun i id hr => ?_) h.nodup
        fun _ _ _ heq => by cases heq
      simpa [hlock, Lock.begun?] using h.listed i id hr
    · cases heq
      simpa using halive i hi
  · rename_i k id left alive hlock
    exact h.request hlock

/-- Whatever anybody does, the session stays sound. -/
theorem Sound.act (h : s.Sound) (a : Act) : (s.act a).Sound := by
  cases a with
  | make k order => exact h.make k order
  | proceed k => exact h.proceed k
  | hold thread => exact h.hold thread
  | work i messages progress => exact h.work i messages progress
  | ask i => exact h.ask i
  | leave i => exact h.leave i

theorem Sound.run (h : s.Sound) (acts : List Act) : (s.run acts).Sound :=
  run_induction (fun _ a h => h.act a) h acts

theorem sound_after (rs : Ruleset) (acts : List Act) : (after rs acts).Sound :=
  (sound_opened rs).run acts

/-! ### Who holds the lock -/

/-- Who holds the lock is at nothing else. -/
def Held (s : Session) : Prop := ∀ k, s.lock.holder? = some k → s.call k = .holding

theorem call_setCall (s : Session) (k : Nat) (c : Call) (j : Nat) :
    (s.setCall k c).call j = if j = k then c else s.call j := Function.update_apply ..

theorem held_of_free (hfree : s.lock = .free) : s.Held := by
  intro k hk
  simp [hfree, Lock.holder?] at hk

theorem lock_tellPanic (s : Session) (i : Nat) : (s.tellPanic i).lock = s.lock := by
  rw [tellPanic]
  split <;> rfl

theorem call_tellPanic (s : Session) (i : Nat) : (s.tellPanic i).call = s.call := by
  rw [tellPanic]
  split <;> rfl

theorem call_make {k j : Nat} {order : Order} (h : s.call j ≠ .unmade) :
    (s.make k order).call j = s.call j := by
  unfold Session.make
  split
  · rename_i hk
    rw [call_setCall, if_neg]
    rintro rfl
    exact h hk
  · rfl

theorem lock_make (s : Session) (k : Nat) (order : Order) : (s.make k order).lock = s.lock := by
  unfold Session.make
  split <;> rfl

theorem gone_tellPanic (s : Session) (i : Nat) : (s.tellPanic i).gone = s.gone := by
  rw [tellPanic]
  split <;> rfl

/-- Only a pending call proceeds. -/
theorem call_proceed {k j : Nat} (h : (s.call j).isPending = false) :
    (s.proceed k).call j = s.call j := by
  have hset {s' : Session} {c : Call} (hcall : s'.call j = s.call j)
      (hk : (s.call k).isPending = true) : (s'.setCall k c).call j = s.call j := by
    rw [call_setCall, if_neg, hcall]
    rintro rfl
    simp [h] at hk
  rw [proceed]
  split
  case h_5 hk =>
    unfold takeHandle
    split <;> exact hset rfl (by rw [hk]; rfl)
  case h_6 hk =>
    split
    · exact hset (by rw [call_tellPanic]) (by rw [hk]; rfl)
    · rfl
  case h_8 => rfl
  all_goals
    rename_i hk _
    exact hset rfl (by rw [hk]; rfl)

/-- A call that proceeds may take the lock if it is free. -/
theorem lock_proceed (s : Session) (k : Nat) :
    (s.proceed k).lock = s.lock ∨
      s.lock = .free ∧ (s.proceed k).lock.holder? = some k ∧ (s.proceed k).call k = .holding := by
  rw [proceed]
  split
  case h_1 hfree => exact .inr ⟨hfree, rfl, by rw [call_setCall, if_pos rfl]⟩
  case h_2 hfree => exact .inr ⟨hfree, rfl, by rw [call_setCall, if_pos rfl]⟩
  case h_5 =>
    unfold takeHandle
    split <;> exact .inl rfl
  case h_6 =>
    split
    · exact .inl (lock_tellPanic s _)
    · exact .inl rfl
  all_goals exact .inl rfl

/-- The holder of the lock goes on, or gives it back and is over. -/
theorem lock_hold (s : Session) (thread : Bool) :
    (s.hold thread).lock.holder? = s.lock.holder? ∧ (s.hold thread).call = s.call ∨
      ∃ k c, s.lock.holder? = some k ∧ (s.hold thread).lock = .free ∧
        (s.hold thread).call = Function.update s.call k c := by
  unfold Session.hold
  split
  · exact .inl ⟨rfl, rfl⟩
  · rename_i hlock
    exact .inl ⟨by rw [hlock]; rfl, rfl⟩
  · rename_i hlock
    exact .inr ⟨_, _, by rw [hlock]; rfl, rfl, rfl⟩
  · rename_i hlock
    split
    · exact .inl ⟨by rw [hlock]; rfl, rfl⟩
    · split
      · exact .inl ⟨by rw [hlock]; rfl, rfl⟩
      · exact .inr ⟨_, _, by rw [hlock]; rfl, rfl, rfl⟩
  · rename_i hlock
    exact .inr ⟨_, _, by rw [hlock]; rfl, rfl, rfl⟩
  · rename_i hlock
    exact .inl ⟨by rw [hlock]; rfl, rfl⟩

theorem lock_work (s : Session) (i : Nat) (messages : List Message)
    (progress : Producer.Progress) :
    (s.work i messages progress).lock = s.lock ∧ (s.work i messages progress).call = s.call := by
  unfold Session.work
  split
  · split <;> exact ⟨rfl, rfl⟩
  · exact ⟨rfl, rfl⟩

theorem lock_leave (s : Session) (i : Nat) :
    (s.leave i).lock = s.lock ∧ (s.leave i).call = s.call := by
  unfold Session.leave
  split
  · split <;> exact ⟨rfl, rfl⟩
  · exact ⟨rfl, rfl⟩

theorem Held.of_eq (h : s.Held) {s' : Session} (heq : s'.lock = s.lock ∧ s'.call = s.call) :
    s'.Held := by
  intro k hk
  rw [heq.1] at hk
  rw [heq.2]
  exact h k hk

theorem Held.act (h : s.Held) (a : Act) : (s.act a).Held := by
  cases a with
  | make k order =>
    intro j hj
    have hcall := h j (s.lock_make k order ▸ hj)
    exact (call_make (by simp [hcall])).trans hcall
  | proceed k =>
    intro j hj
    rcases s.lock_proceed k with hsame | ⟨-, hholder, hholding⟩
    · have hcall := h j (hsame ▸ hj)
      exact (call_proceed (by rw [hcall]; rfl)).trans hcall
    · obtain rfl : k = j := Option.some.inj (hholder.symm.trans hj)
      exact hholding
  | hold thread =>
    rcases s.lock_hold thread with ⟨hholder, hcall⟩ | ⟨k, c, -, hfree, -⟩
    · intro j hj
      exact (congrFun hcall j).trans (h j (hholder ▸ hj))
    · exact held_of_free hfree
  | work i messages progress => exact h.of_eq (s.lock_work i messages progress)
  | ask i => exact h.of_eq ⟨rfl, rfl⟩
  | leave i => exact h.of_eq (s.lock_leave i)

theorem held_after (rs : Ruleset) (acts : List Act) : (after rs acts).Held :=
  run_induction (fun _ a h => h.act a) (held_of_free rfl) acts

/-- A stop that found these loops alive is at work, or over. -/
def Stops (s : Session) (k : Nat) (alive : List Nat) : Prop :=
  (∃ left, s.lock = .stopping k left alive) ∨ s.call k = .stopped alive

theorem Stops.of_eq {k : Nat} {alive : List Nat} (h : s.Stops k alive) {s' : Session}
    (heq : s'.lock = s.lock ∧ s'.call = s.call) : s'.Stops k alive := by
  rw [Stops, heq.1, heq.2]
  exact h

theorem Stops.act (hheld : s.Held) {k : Nat} {alive : List Nat} (h : s.Stops k alive) (a : Act) :
    (s.act a).Stops k alive := by
  cases a with
  | make j order =>
    refine h.imp (fun ⟨left, hlock⟩ => ⟨left, (s.lock_make j order).trans hlock⟩) fun hover => ?_
    exact (call_make (by simp [hover])).trans hover
  | proceed j =>
    rcases h with ⟨left, hlock⟩ | hover
    · rcases s.lock_proceed j with hsame | ⟨hfree, -⟩
      · exact .inl ⟨left, hsame.trans hlock⟩
      · simp [hlock] at hfree
    · exact .inr ((call_proceed (by rw [hover]; rfl)).trans hover)
  | hold thread =>
    rcases h with ⟨left, hlock⟩ | hover
    · simp only [Session.act, Session.hold, hlock]
      cases left with
      | nil => exact .inr (Function.update_self ..)
      | cons id left => exact .inl ⟨left, rfl⟩
    · rcases s.lock_hold thread with ⟨-, hcall⟩ | ⟨j, c, hholder, -, hcall⟩
      · exact .inr ((congrFun hcall k).trans hover)
      · refine .inr ((congrFun hcall k).trans ?_)
        rw [Function.update_of_ne, hover]
        rintro rfl
        simp [hheld k hholder] at hover
  | work i messages progress => exact h.of_eq (s.lock_work i messages progress)
  | ask i => exact h.of_eq ⟨rfl, rfl⟩
  | leave i => exact h.of_eq (s.lock_leave i)

theorem Stops.run (hheld : s.Held) {k : Nat} {alive : List Nat} (h : s.Stops k alive)
    (acts : List Act) : (s.run acts).Held ∧ (s.run acts).Stops k alive :=
  run_induction (P := fun s => s.Held ∧ s.Stops k alive)
    (fun _ a h => ⟨h.1.act a, h.2.act h.1 a⟩) ⟨hheld, h⟩ acts

/-! ### The life of a loop -/

/-- A stop reaches all loops that are alive when it takes the lock. -/
theorem tellsStop_of_stopped (hsound : s.Sound) (hheld : s.Held) {k : Nat}
    (hstops : s.call k = .stops) (hfree : s.lock = .free) (later : List Act) {alive : List Nat}
    (hover : (s.run (.proceed k :: later)).call k = .stopped alive) {i : Nat} {id : NodeId}
    (hr : s.Runs i id) : ((s.run (.proceed k :: later)).signal i).tellsStop = true := by
  have htaken : (s.act (.proceed k)).Stops k s.alive := by
    simp only [Session.act, Session.proceed, hstops, hfree]
    exact .inl ⟨s.engine.started, rfl⟩
  have hfound : i ∈ s.alive := by simpa [Session.alive] using ⟨hr.1.lt, hr.2⟩
  obtain ⟨hheld', hstops'⟩ := htaken.run (hheld.act _) later
  rcases hstops' with ⟨left, hlock⟩ | hover'
  · have hholding := hheld' k (by rw [hlock]; rfl)
    rw [run_cons, hholding] at hover
    cases hover
  · exact Signal.tellsStop_of_not_connected
      (((hsound.run (.proceed k :: later)).stopped k s.alive hover') i hfound)

/-- A loop that lives learns of a stop just when one was requested of it. -/
theorem Sound.tellsStop_eq (h : s.Sound) {i : Nat} {loop : Loop}
    (hloop : s.engine.loops[i]? = some loop) (hgone : s.gone i = false) :
    (s.signal i).tellsStop = loop.stopRequested := by
  rw [h.told i loop hloop hgone]
  rcases h.signal i _ ⟨⟨loop, hloop, rfl⟩, hgone⟩ with ⟨-, hfresh⟩ | ⟨htold, -⟩
  · rw [hfresh]
    rfl
  · rw [Signal.tellsStop_of_not_connected htold, htold]
    rfl

/-- What holds of the loops of producers, whatever the callers of an engine do and however their
calls, the loops and the ends of these interleave. A loop that has not ended has its thread. A
producer has one thread at most. If nobody holds the lock, whoever has a thread is listed, and once.
Threads that a stop finds when it takes the lock are told to stop by its end, and ever after. Who
learns of a stop is a loop that was requested to stop, and that had begun when a stop last took
the lock. -/
theorem loops_live_once_and_hear_their_stops (rs : Ruleset) (acts : List Act) :
    let s := after rs acts
    (∀ (i : Nat) (loop : Loop), s.engine.loops[i]? = some loop →
      Engine.hasEnded loop.progress = false → s.Runs i loop.producer.id) ∧
    (∀ i j id, s.Runs i id → s.Runs j id → i = j) ∧
    (s.lock = .free → ∀ i id, s.Runs i id → id ∈ s.engine.started) ∧
    s.engine.started.Nodup ∧
    (∀ k, s.call k = .stops → s.lock = .free → ∀ later alive,
      let s' := s.run (.proceed k :: later)
      s'.call k = .stopped alive → ∀ i id, s.Runs i id → (s'.signal i).tellsStop = true) ∧
    (∀ (i : Nat) (loop : Loop), s.engine.loops[i]? = some loop → s.gone i = false →
      (s.signal i).tellsStop = loop.stopRequested ∧ (loop.stopRequested = true → i < s.asked)) := by
  intro s
  have h : s.Sound := sound_after rs acts
  refine ⟨fun i loop hloop hgoing => ⟨⟨loop, hloop, rfl⟩, ?_⟩, h.single, fun hfree i id hr => ?_,
    h.nodup, fun k hstops hfree later alive => ?_, fun i loop hloop hgone => ⟨?_, fun htold => ?_⟩⟩
  · by_contra hgone
    obtain ⟨loop', hloop', hended⟩ := h.ended i (by simpa using hgone)
    rw [hloop] at hloop'
    cases hloop'
    simp [hgoing] at hended
  · simpa [hfree, Lock.begun?] using h.listed i id hr
  · exact fun hover i id hr =>
      tellsStop_of_stopped h (held_after rs acts) hstops hfree later hover hr
  · exact h.tellsStop_eq hloop hgone
  · rcases h.signal i _ ⟨⟨loop, hloop, rfl⟩, hgone⟩ with ⟨-, hfresh⟩ | ⟨-, hlt⟩
    · simp [h.told i loop hloop hgone, hfresh, Signal.fresh] at htold
    · exact hlt

/-- One rule, fed by a producer that waits for its stop. -/
def idling : Ruleset :=
  let registry := Registry.empty.addProducer "idle" fun _ =>
    .ok ⟨0, fun at_ => if at_ = 0 then .awaitStop 1 else .finish⟩
  .after registry .empty [.addRule ⟨"m"⟩ ⟨"a", ⟨1, 1⟩, .produced ⟨"idle", []⟩ []⟩ []]

/-- A producer is started, and a stop tells its loop to stop, which runs on. -/
theorem loops_live_once_and_hear_their_stops_idling :
    let s := after idling
      [.make 0 .start, .proceed 0, .hold true, .hold true, .hold true, .make 1 .stop]
    let s' := s.run [.proceed 1, .hold true, .hold true]
    s.call 1 = .stops ∧ s.lock = .free ∧ s'.call 1 = .stopped [0] ∧ s.Runs 0 ⟨0⟩ ∧
      ⟨0⟩ ∈ s.engine.started ∧ (s'.signal 0).tellsStop = true := by
  intro s s'
  have hstops : s.call 1 = .stops := by
    simp only [s, idling]
    rfl
  have hfree : s.lock = .free := by
    simp only [s, idling]
    rfl
  have hstopped : s'.call 1 = .stopped [0] := by
    simp only [s', s, idling]
    rfl
  obtain ⟨hruns, -, hlisted, -, htold, -⟩ := loops_live_once_and_hear_their_stops idling
    [.make 0 .start, .proceed 0, .hold true, .hold true, .hold true, .make 1 .stop]
  have hloop : s.engine.loops[0]?.map
      (fun loop => (loop.producer.id, Engine.hasEnded loop.progress)) = some (⟨0⟩, false) := by
    simp only [s, idling]
    rfl
  obtain ⟨loop, hloop, heq⟩ := Option.map_eq_some_iff.mp hloop
  obtain ⟨hid, hgoing⟩ := Prod.mk.injEq .. ▸ heq
  have hr : s.Runs 0 ⟨0⟩ := hid ▸ hruns 0 loop hloop hgoing
  exact ⟨hstops, hfree, hstopped, hr, hlisted hfree 0 _ hr,
    htold 1 hstops hfree [.hold true, .hold true] [0] hstopped 0 _ hr⟩

end Session
end RuleGraph
