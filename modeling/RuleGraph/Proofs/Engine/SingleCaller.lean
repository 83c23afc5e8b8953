import Mathlib.Data.List.Induction
import RuleGraph.Proofs.Engine.Lifecycle

/-!
# An engine with a single caller

An engine does at a stroke what its caller asks for, loops included. Here each such stroke is found
among the sessions: the caller, the lock and the loops take steps that end in the same engine.
-/
namespace RuleGraph

namespace Engine

variable {e : Engine} {i : Nat} {loop : Loop} {patient : Bool} {move : Nat}

theorem endEvents_of_going {n : ProducerNode} {progress : Producer.Progress}
    (h : hasEnded progress = false) : endEvents n progress = [] := by
  cases progress with
  | waiting at_ => rfl
  | _ => cases h

theorem loops_goOn : (e.goOn i loop patient move).loops = e.loops.set i
    { loop with
      progress :=
        (loop.producer.program.run e.now loop.stopRequested patient ampleMoves move).2 } := by
  rw [goOn]
  split
  split <;> simp_all [setFeeder]

theorem now_goOn : (e.goOn i loop patient move).now = e.now := by
  rw [goOn]
  split
  split <;> rfl

theorem unjoined_goOn (id : NodeId) :
    ((e.goOn i loop patient move).feeder id).unjoined = (e.feeder id).unjoined := by
  rw [goOn]
  split
  split
  · exact (feeder_setFeeder_congr Feeder.unjoined (by rfl) id).trans rfl
  · rfl

/-- What the caller of an engine gets it to do. -/
def obey (e : Engine) : Session.Order → Engine
  | .start => e.startAll.2
  | .stop => e.stopAll
  | .wait => e.waitAll
  | .ask => e

/-- Every loop comes to its end as time passes. -/
def Ending (e : Engine) : Prop := ∀ (i : Nat) (loop : Loop) (move : Nat),
  e.loops[i]? = some loop → loop.progress = .waiting move →
  hasEnded (loop.producer.program.run e.now loop.stopRequested true ampleMoves move).2 = true

theorem Ending.advance (h : e.Ending) (i : Nat) : (e.advance true i).Ending := by
  unfold Engine.advance
  split
  · exact h
  · rename_i loop hloop
    split
    · rename_i move hmove
      intro j after at_ hafter hat
      rw [loops_goOn, List.getElem?_set] at hafter
      rw [now_goOn]
      split at hafter
      · split at hafter
        · cases hafter
          have hended := h i loop move hloop hmove
          dsimp only at hat
          rw [hat] at hended
          cases hended
        · cases hafter
      · exact h j after at_ hafter hat
    · exact h

theorem Ending.of_eq {e' : Engine} (h : e.Ending) (hloops : e'.loops = e.loops)
    (hnow : e'.now = e.now) : e'.Ending := by
  intro i loop move hloop hmove
  rw [hnow]
  exact h i loop move (hloops ▸ hloop) hmove

theorem Ending.join (h : e.Ending) (id : NodeId) : (e.join id).Ending := by
  simp only [Engine.join]
  split
  · exact h
  · rename_i i hi
    have htaken : (e.setFeeder id { e.feeder id with unjoined := none }).Ending := h.of_eq rfl rfl
    have hadvanced := htaken.advance i
    split
    · exact hadvanced.of_eq rfl rfl
    · exact hadvanced

theorem Ending.ended_advance (h : e.Ending) (hlt : i < e.loops.length) :
    ((e.advance true i).loops[i]?).any (fun loop => hasEnded loop.progress) = true := by
  have hloop := List.getElem?_eq_getElem hlt
  simp only [Engine.advance, hloop]
  split
  · rename_i move hmove
    rw [loops_goOn, List.getElem?_set_self hlt]
    exact h i _ move hloop hmove
  · rename_i hended
    rw [hloop, Option.any_some]
    cases hprogress : (e.loops[i]).progress with
    | waiting move => exact absurd hprogress (hended move)
    | _ => rfl

end Engine

namespace Session

variable {s : Session}

/-- Every thread whose loop has ended is gone, and handles are of loops. -/
structure Tidy (s : Session) : Prop where
  gone : ∀ i, s.gone i = (s.engine.loops[i]?).any fun loop => Engine.hasEnded loop.progress
  handle : ∀ id i, (s.engine.feeder id).unjoined = some i → i < s.engine.loops.length

theorem tidy_opened (rs : Ruleset) : (opened rs).Tidy :=
  ⟨fun _ => rfl, fun _ _ hi => by cases hi⟩

/-- Acts end with this engine, lock and calls. -/
def Reaches (s : Session) (e : Engine) (lock : Lock) (call : Nat → Call) : Prop :=
  ∃ acts, let s' := s.run acts
    s'.engine = e ∧ s'.lock = lock ∧ s'.call = call ∧ s'.Tidy

theorem Tidy.reaches (h : s.Tidy) : s.Reaches s.engine s.lock s.call := ⟨[], rfl, rfl, rfl, h⟩

theorem Reaches.next {e e' : Engine} {lock lock' : Lock} {call call' : Nat → Call}
    (h : s.Reaches e lock call)
    (hnext : ∀ s' : Session, s'.Tidy → s'.engine = e → s'.lock = lock → s'.call = call →
      s'.Reaches e' lock' call') : s.Reaches e' lock' call' := by
  obtain ⟨acts, hengine, hlock, hcall, htidy⟩ := h
  obtain ⟨more, hmore⟩ := hnext (s.run acts) htidy hengine hlock hcall
  exact ⟨acts ++ more, by rw [run_append]; exact hmore⟩

/-- An act that leaves the loops and their handles. -/
theorem Tidy.step (h : s.Tidy) (a : Act) {s' : Session} (hact : s.act a = s')
    (hgone : s'.gone = s.gone) (hloops : s'.engine.loops = s.engine.loops)
    (hhandle : ∀ id i, (s'.engine.feeder id).unjoined = some i →
      (s.engine.feeder id).unjoined = some i) : s.Reaches s'.engine s'.lock s'.call := by
  have hrun : s.run [a] = s' := hact
  refine ⟨[a], by rw [hrun], by rw [hrun], by rw [hrun], hrun ▸ ⟨fun i => ?_, fun id i hi => ?_⟩⟩
  · rw [hgone, hloops]
    exact h.gone i
  · rw [hloops]
    exact h.handle id i (hhandle id i hi)

theorem Tidy.goOn (h : s.Tidy) {i move : Nat} {loop : Loop}
    (hloop : s.engine.loops[i]? = some loop) (hmove : loop.progress = .waiting move)
    (patient : Bool) : s.Reaches (s.engine.goOn i loop patient move) s.lock s.call := by
  let r := loop.producer.program.run s.engine.now loop.stopRequested patient Engine.ampleMoves move
  let worked : Engine := { s.engine with
    ruleset := r.1.foldl (fun rs m => rs.publish loop.producer.topic (loop.producer.stamp m))
      s.engine.ruleset
    loops := s.engine.loops.set i { loop with progress := r.2 }
    journal := s.engine.journal ++ Engine.endEvents loop.producer r.2 }
  have hlt : i < s.engine.loops.length := (List.getElem?_eq_some_iff.mp hloop).1
  have hgone : s.gone i = false := by simp [h.gone, hloop, hmove, Engine.hasEnded]
  have hwork : s.act (.work i r.1 r.2) = { s with engine := worked } := by
    simp [Session.act, Session.work, hloop, hmove, Engine.hasEnded, worked]
  -- if the loop has not ended, it does not leave
  have hleave : ({ s with engine := worked } : Session).act (.leave i) =
      { s with
        engine := s.engine.goOn i loop patient move
        gone := if Engine.hasEnded r.2 then Function.update s.gone i true else s.gone } := by
    have hset : worked.loops[i]? = some { loop with progress := r.2 } :=
      List.getElem?_set_self hlt
    simp only [Session.act, Session.leave, hset, hgone, Bool.not_false, Bool.and_true, Engine.goOn]
    split
    · rfl
    · rename_i hgoing
      simp [worked, Engine.endEvents_of_going (by simpa using hgoing), r]
  have hrun : s.run [.work i r.1 r.2, .leave i] = _ :=
    (congrArg (fun s : Session => s.act (.leave i)) hwork).trans hleave
  refine ⟨[.work i r.1 r.2, .leave i], by rw [hrun], by rw [hrun], by rw [hrun],
    hrun ▸ ⟨fun j => ?_, fun id j hj => ?_⟩⟩
  · simp only [Engine.loops_goOn, List.getElem?_set, hlt, if_true]
    by_cases heq : i = j
    · subst heq
      rw [if_pos rfl]
      change _ = Engine.hasEnded r.2
      split
      · rename_i hended
        rw [hended, Function.update_self]
      · rename_i hgoing
        rw [hgone, Bool.eq_false_iff.mpr hgoing]
    · rw [if_neg heq, ← h.gone j]
      split
      · exact Function.update_of_ne (Ne.symm heq) ..
      · rfl
  · rw [Engine.unjoined_goOn] at hj
    rw [Engine.loops_goOn, List.length_set]
    exact h.handle id j hj

theorem Tidy.advance (h : s.Tidy) (patient : Bool) (i : Nat) :
    s.Reaches (s.engine.advance patient i) s.lock s.call := by
  unfold Engine.advance
  split
  · exact h.reaches
  · rename_i loop hloop
    split
    · rename_i move hmove
      exact h.goOn hloop hmove patient
    · exact h.reaches

/-- A loop of a producer begins. -/
theorem Tidy.begin (h : s.Tidy) {n : ProducerNode} {left : List ProducerNode} {k count : Nat}
    (hlock : s.lock = .starting k (n :: left) none count)
    (hidle : (s.engine.feeder n.id).running = false) :
    s.Reaches (s.engine.beginLoop n).2 (.starting k left (some n.id) count) s.call := by
  obtain ⟨hloops, hfeeder, -⟩ := Engine.beginLoop_of_idle hidle
  have hrun : s.run [.hold true] =
      { s.begin n with lock := .starting k left (some n.id) count } := by
    simp [Session.act, Session.hold, hlock, hidle]
  refine ⟨[.hold true], by rw [hrun]; rfl, by rw [hrun], by rw [hrun]; rfl,
    hrun ▸ ⟨fun i => ?_, fun id i hi => ?_⟩⟩
  · change s.gone i = ((s.engine.beginLoop n).2.loops[i]?).any _
    rw [hloops, List.getElem?_append]
    split
    · exact h.gone i
    · rename_i hge
      have hnone : s.engine.loops[i]? = none := List.getElem?_eq_none_iff.mpr (Nat.not_lt.mp hge)
      rw [h.gone, hnone, List.getElem?_singleton]
      split <;> rfl
  · change ((s.engine.beginLoop n).2.feeder id).unjoined = some i at hi
    change i < (s.engine.beginLoop n).2.loops.length
    rw [hfeeder] at hi
    rw [hloops, List.length_append]
    split at hi
    · cases hi
      exact Nat.lt_succ_self _
    · exact Nat.lt_succ_of_lt (h.handle id i hi)

theorem Tidy.startEach (h : s.Tidy) {producers : List ProducerNode} {k count : Nat}
    (hlock : s.lock = .starting k producers none count) :
    s.Reaches (Engine.startEach producers s.engine).2
      (.starting k [] none (count + (Engine.startEach producers s.engine).1)) s.call := by
  induction producers generalizing s count with
  | nil =>
    have hstay := h.reaches
    rw [hlock] at hstay
    exact hstay
  | cons n left ih =>
    cases hrunning : (s.engine.feeder n.id).running with
    | true =>
      have hskip : s.act (.hold true) = { s with lock := .starting k left none count } := by
        simp [Session.act, Session.hold, hlock, hrunning]
      have hstart : Engine.startEach (n :: left) s.engine = Engine.startEach left s.engine := by
        simp [Engine.startEach, Engine.start, Engine.beginLoop, hrunning]
      rw [hstart]
      have hstep : s.Reaches s.engine (.starting k left none count) s.call :=
        h.step (.hold true) hskip rfl rfl fun _ _ hi => hi
      refine hstep.next fun s' h' hengine hlock' hcall => ?_
      rw [← hengine, ← hcall]
      exact ih h' hlock'
    | false =>
      -- the loop begins, goes on as far as it can, and is listed
      let begun := (s.engine.beginLoop n).2
      let gone := begun.advance false s.engine.loops.length
      let listed : Engine := { gone with
        started :=
          if gone.started.contains n.id then gone.started else gone.started ++ [n.id] }
      have hstart : Engine.startEach (n :: left) s.engine =
          ((Engine.startEach left listed).1 + 1, (Engine.startEach left listed).2) := by
        have hbegin : s.engine.beginLoop n = (some s.engine.loops.length, begun) := by
          simp [begun, Engine.beginLoop, hrunning]
        simp only [Engine.startEach, Engine.start, hbegin]
        rfl
      rw [hstart]
      refine (h.begin hlock hrunning).next fun s₁ h₁ hengine₁ hlock₁ hcall₁ => ?_
      refine (h₁.advance false s.engine.loops.length).next fun s₂ h₂ hengine₂ hlock₂ hcall₂ => ?_
      rw [hengine₁] at hengine₂
      rw [hlock₁] at hlock₂
      have hlist : s₂.act (.hold true) =
          { s₂.enlist n.id with lock := .starting k left none (count + 1) } := by
        simp [Session.act, Session.hold, hlock₂]
      have hstep : s₂.Reaches (s₂.enlist n.id).engine (.starting k left none (count + 1)) s₂.call :=
        h₂.step (.hold true) hlist rfl rfl fun _ _ hi => hi
      refine hstep.next fun s₃ h₃ hengine₃ hlock₃ hcall₃ => ?_
      rw [enlist, hengine₂] at hengine₃
      have hlisted : s₃.engine = listed := hengine₃
      rw [← hcall₁, ← hcall₂, ← hcall₃, ← hlisted, Nat.add_comm _ 1, ← Nat.add_assoc]
      exact ih h₃ hlock₃

theorem Tidy.requests (h : s.Tidy) {k : Nat} {left : List NodeId} {alive : List Nat}
    (hlock : s.lock = .stopping k left alive) :
    s.Reaches (left.foldl Engine.stop s.engine) (.stopping k [] alive) s.call := by
  induction left generalizing s with
  | nil =>
    have hstay := h.reaches
    rw [hlock] at hstay
    exact hstay
  | cons id left ih =>
    have hrequest : s.act (.hold true) = { s.request id with lock := .stopping k left alive } := by
      simp [Session.act, Session.hold, hlock]
    have hstep : s.Reaches (s.engine.stop id) (.stopping k left alive) s.call := by
      refine ⟨[.hold true], by rw [run_cons, hrequest]; rfl, by rw [run_cons, hrequest]; rfl,
        by rw [run_cons, hrequest]; rfl, ?_⟩
      rw [run_cons, hrequest]
      refine ⟨fun i => ?_, fun other i hi => ?_⟩
      · change s.gone i = ((s.engine.stop id).loops[i]?).any _
        rw [h.gone, Engine.getElem?_loops_stop]
        cases s.engine.loops[i]? with
        | none => rfl
        | some loop =>
          simp only [Option.map_some, Option.any_some]
          split <;> rfl
      · change ((s.engine.stop id).feeder other).unjoined = some i at hi
        change i < (s.engine.stop id).loops.length
        rw [Engine.length_loops_stop]
        rw [Engine.feeder_stop_congr Feeder.unjoined fun _ => rfl] at hi
        exact h.handle other i hi
    refine hstep.next fun s' h' hengine hlock' hcall => ?_
    rw [List.foldl_cons, ← hengine, ← hcall]
    exact ih h' hlock'

theorem engine_tellPanic (s : Session) (i : Nat) :
    (s.tellPanic i).engine =
      match s.engine.loops[i]? with
      | some ⟨n, .panicked, _⟩ => s.engine.note (.producerPanicked n.topic)
      | _ => s.engine := by
  rcases hloop : s.engine.loops[i]? with _ | ⟨n, progress, stopRequested⟩
  · simp only [tellPanic, hloop]
  · cases progress <;> simp only [tellPanic, hloop]

theorem loops_tellPanic (s : Session) (i : Nat) :
    (s.tellPanic i).engine.loops = s.engine.loops := by
  rw [tellPanic]
  split <;> rfl

theorem feeder_tellPanic (s : Session) (i : Nat) (id : NodeId) :
    (s.tellPanic i).engine.feeder id = s.engine.feeder id := by
  rw [tellPanic]
  split <;> rfl

/-- A wait for the loop of one producer. -/
theorem Tidy.join (h : s.Tidy) (hends : s.engine.Ending) {k since : Nat} {id : NodeId}
    {left : List NodeId} (hcall : s.call k = .joining since (id :: left) none) :
    s.Reaches (s.engine.join id) s.lock (Function.update s.call k (.joining since left none)) := by
  have hproceed : s.act (.proceed k) = s.takeHandle k since id left := by
    simp only [Session.act, Session.proceed, hcall]
  cases hhandle : (s.engine.feeder id).unjoined with
  | none =>
    have htake : s.act (.proceed k) = s.setCall k (.joining since left none) := by
      simp only [hproceed, takeHandle, hhandle]
    have hjoin : s.engine.join id = s.engine := by simp only [Engine.join, hhandle]
    rw [hjoin]
    exact h.step (.proceed k) htake rfl rfl fun _ _ hi => hi
  | some i =>
    let taken := s.engine.setFeeder id { s.engine.feeder id with unjoined := none }
    have htake : s.act (.proceed k) =
        { s with engine := taken }.setCall k (.joining since left (some i)) := by
      simp only [hproceed, takeHandle, hhandle, taken]
    have hstep : s.Reaches taken s.lock
        (Function.update s.call k (.joining since left (some i))) := by
      refine h.step (.proceed k) htake rfl rfl fun other j hj => ?_
      change (taken.feeder other).unjoined = some j at hj
      rw [Engine.feeder_setFeeder] at hj
      split at hj
      · cases hj
      · exact hj
    have hending : taken.Ending := hends.of_eq rfl rfl
    have hended := hending.ended_advance (h.handle id i hhandle)
    refine hstep.next fun s₁ h₁ hengine₁ hlock₁ hcall₁ => ?_
    refine (h₁.advance true i).next fun s₂ h₂ hengine₂ hlock₂ hcall₂ => ?_
    rw [hengine₁] at hengine₂
    rw [hcall₁] at hcall₂
    have hgone : s₂.gone i = true := by rw [h₂.gone, hengine₂, hended]
    have hover : s₂.act (.proceed k) = (s₂.tellPanic i).setCall k (.joining since left none) := by
      simp [Session.act, Session.proceed, hcall₂, hgone]
    have htold : (s₂.tellPanic i).engine = s.engine.join id := by
      rw [engine_tellPanic, hengine₂]
      simp only [Engine.join, hhandle]
      rfl
    have hlast : s₂.Reaches (s₂.tellPanic i).engine (s₂.tellPanic i).lock
        (Function.update (s₂.tellPanic i).call k (.joining since left none)) :=
      h₂.step (.proceed k) hover (gone_tellPanic s₂ i) (loops_tellPanic s₂ i)
        fun other j hj => feeder_tellPanic s₂ i other ▸ hj
    rw [htold, lock_tellPanic, call_tellPanic, hlock₂, hlock₁, hcall₂,
      Function.update_idem] at hlast
    exact hlast

theorem Tidy.joins (h : s.Tidy) (hends : s.engine.Ending) {k since : Nat} {left : List NodeId}
    (hcall : s.call k = .joining since left none) :
    s.Reaches (left.foldl Engine.join s.engine) s.lock
      (Function.update s.call k (.joining since [] none)) := by
  induction left generalizing s with
  | nil =>
    rw [← hcall, Function.update_eq_self]
    exact h.reaches
  | cons id left ih =>
    refine (h.join hends hcall).next fun s' h' hengine hlock hcall' => ?_
    have hcall'' : s'.call k = .joining since left none := by rw [hcall', Function.update_self]
    have hjoins := ih h' (hengine ▸ hends.join id) hcall''
    rw [hcall', Function.update_idem, hengine, hlock] at hjoins
    exact hjoins

theorem Tidy.startAll (h : s.Tidy) (hfree : s.lock = .free) {k : Nat} (hk : s.call k = .starts) :
    s.Reaches s.engine.startAll.2 .free
      (Function.update s.call k (.started s.engine.startAll.1)) := by
  have htake : s.act (.proceed k) = { s with
      lock := .starting k s.engine.rootProducers none 0 }.setCall k .holding := by
    simp only [Session.act, Session.proceed, hk, hfree]
  have hstep : s.Reaches s.engine (.starting k s.engine.rootProducers none 0)
      (Function.update s.call k .holding) :=
    h.step (.proceed k) htake rfl rfl fun _ _ hi => hi
  refine hstep.next fun s₁ h₁ e₁ l₁ c₁ => ?_
  have heach := h₁.startEach l₁
  rw [Nat.zero_add, e₁, c₁] at heach
  refine heach.next fun s₂ h₂ e₂ l₂ c₂ => ?_
  have hover : s₂.act (.hold true) =
      { s₂ with engine := s₂.engine.note (.startedProducers s.engine.startAll.1) }.release k
        (.started s.engine.startAll.1) := by
    simp only [Session.act, Session.hold, l₂]
    rfl
  have hlast : s₂.Reaches (s₂.engine.note (.startedProducers s.engine.startAll.1)) .free
      (Function.update s₂.call k (.started s.engine.startAll.1)) :=
    h₂.step (.hold true) hover rfl rfl fun _ _ hi => hi
  rw [e₂, c₂, Function.update_idem] at hlast
  exact hlast

theorem Tidy.stopAll (h : s.Tidy) (hfree : s.lock = .free) {k : Nat} (hk : s.call k = .stops) :
    s.Reaches s.engine.stopAll .free (Function.update s.call k (.stopped s.alive)) := by
  have htake : s.act (.proceed k) = { s with
      lock := .stopping k s.engine.started s.alive
      asked := s.engine.loops.length }.setCall k .holding := by
    simp only [Session.act, Session.proceed, hk, hfree]
  have hstep : s.Reaches s.engine (.stopping k s.engine.started s.alive)
      (Function.update s.call k .holding) :=
    h.step (.proceed k) htake rfl rfl fun _ _ hi => hi
  refine hstep.next fun s₁ h₁ e₁ l₁ c₁ => ?_
  have hrequests := h₁.requests l₁
  rw [e₁, c₁] at hrequests
  refine hrequests.next fun s₂ h₂ e₂ l₂ c₂ => ?_
  have hover : s₂.act (.hold true) = s₂.release k (.stopped s.alive) := by
    simp only [Session.act, Session.hold, l₂]
  have hlast : s₂.Reaches s₂.engine .free (Function.update s₂.call k (.stopped s.alive)) :=
    h₂.step (.hold true) hover rfl rfl fun _ _ hi => hi
  rw [e₂, c₂, Function.update_idem] at hlast
  exact hlast

theorem Tidy.waitAll (h : s.Tidy) (hfree : s.lock = .free) (hends : s.engine.Ending) {k since : Nat}
    (hk : s.call k = .waits since) :
    s.Reaches s.engine.waitAll .free (Function.update s.call k (.waited since)) := by
  have hlook : s.act (.proceed k) = s.setCall k (.joining since s.engine.started none) := by
    simp only [Session.act, Session.proceed, hk, hfree]
  have hstep : s.Reaches s.engine s.lock
      (Function.update s.call k (.joining since s.engine.started none)) :=
    h.step (.proceed k) hlook rfl rfl fun _ _ hi => hi
  rw [hfree] at hstep
  refine hstep.next fun s₁ h₁ e₁ l₁ c₁ => ?_
  have hjoins := h₁.joins (e₁ ▸ hends) (by rw [c₁, Function.update_self])
  rw [e₁, c₁, l₁, Function.update_idem] at hjoins
  refine hjoins.next fun s₂ h₂ e₂ l₂ c₂ => ?_
  have hover : s₂.act (.proceed k) = s₂.prune.setCall k (.waited since) := by
    simp only [Session.act, Session.proceed, c₂, l₂, Function.update_self]
  have hlast : s₂.Reaches s₂.prune.engine s₂.lock (Function.update s₂.call k (.waited since)) :=
    h₂.step (.proceed k) hover rfl rfl fun _ _ hi => hi
  rw [prune, e₂, c₂, l₂, Function.update_idem] at hlast
  exact hlast

theorem Tidy.isRunning (h : s.Tidy) (hfree : s.lock = .free) {k : Nat} (hk : s.call k = .asks) :
    s.Reaches s.engine .free (Function.update s.call k (.told s.engine.isRunning)) := by
  have hover : s.act (.proceed k) = s.setCall k (.told s.engine.isRunning) := by
    simp only [Session.act, Session.proceed, hk, hfree]
  rw [← hfree]
  exact h.step (.proceed k) hover rfl rfl fun _ _ hi => hi

/-- What a call comes to. -/
def outcome (s : Session) : Order → Call
  | .start => .started s.engine.startAll.1
  | .stop => .stopped s.alive
  | .wait => .waited s.engine.loops.length
  | .ask => .told s.engine.isRunning

/-- What a caller gets an engine to do at a stroke is a session in which nobody else makes a
call. -/
theorem Tidy.obey (h : s.Tidy) (hfree : s.lock = .free) {k : Nat} (hk : s.call k = .unmade)
    (order : Order) (hends : order = .wait → s.engine.Ending) :
    s.Reaches (s.engine.obey order) .free (Function.update s.call k (s.outcome order)) := by
  have hmake : s.act (.make k order) = s.setCall k (order.call s.engine.loops.length) := by
    simp only [Session.act, Session.make, hk]
  have hmade : s.Reaches s.engine s.lock
      (Function.update s.call k (order.call s.engine.loops.length)) :=
    h.step (.make k order) hmake rfl rfl fun _ _ hi => hi
  rw [hfree] at hmade
  refine hmade.next fun s₁ h₁ e₁ l₁ c₁ => ?_
  have hk₁ := congrFun c₁ k
  rw [Function.update_self] at hk₁
  have hupdate (c : Call) : Function.update s₁.call k c = Function.update s.call k c := by
    rw [c₁, Function.update_idem]
  rw [← hupdate, ← e₁]
  cases order with
  | start =>
    have hall := h₁.startAll l₁ hk₁
    rwa [e₁] at hall ⊢
  | stop =>
    have halive : s₁.alive = s.alive := by simp only [alive, e₁, h₁.gone, h.gone]
    have hall := h₁.stopAll l₁ hk₁
    rwa [halive] at hall
  | wait => exact h₁.waitAll l₁ (e₁ ▸ hends rfl) hk₁
  | ask =>
    have hasked := h₁.isRunning l₁ hk₁
    rwa [e₁] at hasked ⊢

/-- An engine that does one thing after the other is that of a session, as long as the loops come to
their ends that are waited for. -/
theorem exists_acts_obey (rs : Ruleset) (orders : List Order)
    (hends : ∀ done, done ++ [.wait] <+: orders → (done.foldl Engine.obey (.new rs)).Ending) :
    ∃ acts, let s := after rs acts
      s.engine = orders.foldl Engine.obey (.new rs) ∧ s.lock = .free ∧ s.Tidy ∧
        ∀ k, orders.length ≤ k → s.call k = .unmade := by
  induction orders using List.reverseRecOn with
  | nil => exact ⟨[], rfl, rfl, tidy_opened rs, fun _ _ => rfl⟩
  | append_singleton orders order ih =>
    obtain ⟨acts, hengine, hfree, htidy, hunmade⟩ :=
      ih fun done hdone => hends done (hdone.trans (List.prefix_append ..))
    have hending (hwait : order = .wait) : (after rs acts).engine.Ending := by
      rw [hengine]
      exact hends orders (hwait ▸ List.prefix_refl _)
    obtain ⟨more, hengine', hfree', hcall, htidy'⟩ :=
      htidy.obey hfree (hunmade orders.length (Nat.le_refl _)) order hending
    refine ⟨acts ++ more, ?_⟩
    rw [after, run_append]
    refine ⟨?_, hfree', htidy', fun k hk => ?_⟩
    · rw [List.foldl_append, ← hengine]
      exact hengine'
    · rw [List.length_append] at hk
      refine (congrFun hcall k).trans ?_
      rw [Function.update_of_ne (Nat.ne_of_gt hk)]
      exact hunmade k (Nat.le_of_succ_le hk)

end Session
end RuleGraph
