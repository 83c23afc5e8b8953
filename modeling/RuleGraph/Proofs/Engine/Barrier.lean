import RuleGraph.Proofs.Engine.Lifecycle

/-!
# Waits as barriers

The handle of a loop goes to one wait, which waits for the loop. A wait is over when it has no
handle to wait for: every loop that began before has ended then, or another wait has its handle and
still waits for it. So a wait is a barrier as long as no other wait overlaps it, and not otherwise.
-/
namespace RuleGraph

namespace Call

/-- The loop whose handle a call has, and for whose end it waits. -/
def joined? : Call → Option Nat
  | .joining _ _ joined => joined
  | _ => none

theorem exists_of_joined?_eq_some {c : Call} {i : Nat} (h : c.joined? = some i) :
    ∃ since left, c = .joining since left (some i) := by
  cases c with
  | joining since left joined => exact ⟨since, left, congrArg _ h⟩
  | _ => cases h

end Call

namespace Session

variable {s s' : Session}

/-- Some wait has the handle of a loop. -/
def Joined (s : Session) (i : Nat) : Prop := ∃ k, (s.call k).joined? = some i

/-- What a wait has seen to: loops that began before it was made and still run are of producers
that it has to wait for, or are waited for by somebody. -/
def SeenTo (s : Session) : Call → Prop
  | .waits since => since ≤ s.engine.loops.length
  | .joining since left _ => since ≤ s.engine.loops.length ∧
      ∀ i id, i < since → s.Runs i id → id ∈ left ∨ s.Joined i
  | .waited since => since ≤ s.engine.loops.length ∧ ∀ i id, i < since → s.Runs i id → s.Joined i
  | _ => True

/-- The handle of a loop that runs lies with its producer, or a wait has it. -/
structure Awaited (s : Session) : Prop where
  handle : ∀ i id, s.Runs i id → (s.engine.feeder id).unjoined = some i ∨ s.Joined i
  seen : ∀ k, s.SeenTo (s.call k)

theorem awaited_opened (rs : Ruleset) : (opened rs).Awaited := by
  refine ⟨fun i id hr => ?_, fun _ => trivial⟩
  have hlt : i < 0 := hr.1.lt
  omega

theorem SeenTo.mono {c : Call} (h : s.SeenTo c)
    (hlength : s.engine.loops.length ≤ s'.engine.loops.length)
    (hruns : ∀ i id, i < s.engine.loops.length → s'.Runs i id → s.Runs i id)
    (hjoined : ∀ i, s'.gone i = false → s.Joined i → s'.Joined i) : s'.SeenTo c := by
  cases c with
  | waits since => exact Nat.le_trans h hlength
  | joining since left joined =>
    refine ⟨Nat.le_trans h.1 hlength, fun i id hi hr => ?_⟩
    exact (h.2 i id hi (hruns i id (Nat.lt_of_lt_of_le hi h.1) hr)).imp_right (hjoined i hr.2)
  | waited since =>
    refine ⟨Nat.le_trans h.1 hlength, fun i id hi hr => hjoined i hr.2 ?_⟩
    exact h.2 i id hi (hruns i id (Nat.lt_of_lt_of_le hi h.1) hr)
  | _ => trivial

theorem Joined.of_call {i : Nat} (h : s.Joined i) (hcall : s'.call = s.call) : s'.Joined i := by
  obtain ⟨k, hk⟩ := h
  exact ⟨k, by rw [hcall, hk]⟩

/-- A call that waits for no loop, or for one that is gone, may be at something else. -/
theorem Joined.of_update {i k : Nat} {c : Call} (h : s.Joined i)
    (hk : (s.call k).joined? ≠ some i) (hcall : s'.call = Function.update s.call k c) :
    s'.Joined i := by
  obtain ⟨j, hj⟩ := h
  refine ⟨j, ?_⟩
  rw [hcall, Function.update_of_ne, hj]
  rintro rfl
  exact hk hj

/-- What has to be seen of a change that begins no loop and leaves the handles and the calls. -/
theorem Awaited.keep (h : s.Awaited) (hlength : s'.engine.loops.length = s.engine.loops.length)
    (hruns : ∀ i id, s'.Runs i id → s.Runs i id)
    (hunjoined : ∀ id, (s'.engine.feeder id).unjoined = (s.engine.feeder id).unjoined)
    (hcall : s'.call = s.call) : s'.Awaited := by
  have hjoined (i : Nat) (hi : s.Joined i) : s'.Joined i := hi.of_call hcall
  refine ⟨fun i id hr => ?_, fun k => ?_⟩
  · rw [hunjoined]
    exact (h.handle i id (hruns i id hr)).imp_right (hjoined i)
  · rw [hcall]
    exact (h.seen k).mono (Nat.le_of_eq hlength.symm) (fun i id _ => hruns i id)
      fun i _ => hjoined i

theorem Awaited.setCall (h : s.Awaited) {k : Nat} {c : Call}
    (hk : ∀ i, (s.call k).joined? = some i → s.gone i = true)
    (hc : s.SeenTo c) : (s.setCall k c).Awaited := by
  have hjoined (i : Nat) (hgone : s.gone i = false) (hi : s.Joined i) :
      (s.setCall k c).Joined i := by
    refine hi.of_update (fun heq => ?_) rfl
    simp [hk i heq] at hgone
  refine ⟨fun i id hr => (h.handle i id hr).imp_right (hjoined i hr.2), fun j => ?_⟩
  rw [call_setCall]
  split
  · exact hc.mono (Nat.le_refl _) (fun _ _ _ hr => hr) hjoined
  · exact (h.seen j).mono (Nat.le_refl _) (fun _ _ _ hr => hr) hjoined

/-- A wait gets the handle of the producer's loop if nobody has it, and otherwise somebody waits for
the loop already. -/
theorem Awaited.takeHandle (h : s.Awaited) {k since : Nat} {id : NodeId} {left : List NodeId}
    (hk : s.call k = .joining since (id :: left) none) :
    (s.takeHandle k since id left).Awaited := by
  have hseen := h.seen k
  rw [hk] at hseen
  unfold Session.takeHandle
  split
  · rename_i hnone
    -- if a loop of the producer runs, somebody else waits for it
    refine h.setCall (fun i heq => by simp [hk, Call.joined?] at heq) ⟨hseen.1, ?_⟩
    intro i other hi hr
    rcases hseen.2 i other hi hr with hmem | hi
    · rcases List.mem_cons.mp hmem with rfl | hmem
      · exact .inr ((h.handle i other hr).resolve_left (by simp [hnone]))
      · exact .inl hmem
    · exact .inr hi
  · rename_i j hsome
    -- the handle passes from the producer to this wait
    let joining : Call := .joining since left (some j)
    let taken := { s with
      engine := s.engine.setFeeder id { s.engine.feeder id with unjoined := none } }.setCall k joining
    have hcall (n : Nat) : taken.call n = if n = k then joining else s.call n := call_setCall ..
    have hjoined (i : Nat) (hi : s.Joined i) : taken.Joined i := 
      hi.of_update (by simp [hk, Call.joined?]) rfl
    have htaken : taken.Joined j := ⟨k, by rw [hcall, if_pos rfl]; rfl⟩
    have hhandle (i : Nat) (other : NodeId) (hr : s.Runs i other) :
        (other ≠ id ∧ (s.engine.feeder other).unjoined = some i) ∨ taken.Joined i := by
      rcases h.handle i other hr with hto | hi
      · by_cases heq : other = id
        · cases (heq ▸ hto).symm.trans hsome
          exact .inr htaken
        · exact .inl ⟨heq, hto⟩
      · exact .inr (hjoined i hi)
    refine ⟨fun i other hr => (hhandle i other hr).imp_left fun hto => ?_, fun n => ?_⟩
    · change ((s.engine.setFeeder id _).feeder other).unjoined = some i
      rw [Engine.feeder_setFeeder, if_neg hto.1, hto.2]
    · change taken.SeenTo (taken.call n)
      rw [hcall]
      split
      · refine ⟨hseen.1, fun i other hi hr => ?_⟩
        rcases hseen.2 i other hi hr with hmem | hi
        · exact (hhandle i other hr).imp_left fun hto => (List.mem_cons.mp hmem).resolve_left hto.1
        · exact .inr (hjoined i hi)
      · exact (h.seen n).mono (Nat.le_refl _) (fun _ _ _ hr => hr) fun i _ => hjoined i

theorem Awaited.tellPanic (h : s.Awaited) (i : Nat) : (s.tellPanic i).Awaited := by
  unfold Session.tellPanic
  split
  · exact h.keep rfl (fun _ _ hr => hr) (fun _ => rfl) rfl
  · exact h

/-- A loop begins with its handle; the handle of the loop before goes, which has ended. -/
theorem Awaited.begin (h : s.Awaited) (hsound : s.Sound) {n : ProducerNode}
    (hidle : (s.engine.feeder n.id).running = false) : (s.begin n).Awaited := by
  obtain ⟨hloops, hfeeder, -⟩ := Engine.beginLoop_of_idle hidle
  have hjoined (i : Nat) (hi : s.Joined i) : (s.begin n).Joined i := hi.of_call rfl
  have hruns (i : Nat) (id : NodeId) (hi : i < s.engine.loops.length) (hr : (s.begin n).Runs i id) :
      s.Runs i id :=
    ((hsound.runs_begin hidle hr).resolve_right fun hnew => Nat.ne_of_lt hi hnew.1).1
  refine ⟨fun i id hr => ?_, fun k => ?_⟩
  · change ((s.engine.beginLoop n).2.feeder id).unjoined = some i ∨ _
    rw [hfeeder]
    rcases hsound.runs_begin hidle hr with ⟨hold, hne⟩ | ⟨rfl, rfl⟩
    · rw [if_neg hne]
      exact (h.handle i id hold).imp_right (hjoined i)
    · exact .inl (by rw [if_pos rfl])
  · refine (h.seen k).mono ?_ hruns fun i _ => hjoined i
    simp [Session.begin, hloops]

/-- The handle of a producer that does not run is of no use. -/
theorem Awaited.dropHandle (h : s.Awaited) (hsound : s.Sound) {id : NodeId}
    (hidle : (s.engine.feeder id).running = false) :
    ({ s with
      engine := s.engine.setFeeder id { s.engine.feeder id with unjoined := none } } :
        Session).Awaited := by
  refine ⟨fun i other hr => ?_, h.seen⟩
  have hr : s.Runs i other := hr
  have hne : other ≠ id := by
    rintro rfl
    simp [hsound.running i _ hr] at hidle
  rw [Engine.feeder_setFeeder, if_neg hne]
  exact h.handle i other hr

theorem Awaited.make (h : s.Awaited) (k : Nat) (order : Order) : (s.make k order).Awaited := by
  unfold Session.make
  split
  · rename_i hk
    refine h.setCall (fun i heq => ?_) ?_
    · simp [hk, Call.joined?] at heq
    · cases order
      case wait => exact Nat.le_refl _
      all_goals trivial
  · exact h

theorem Awaited.proceed (h : s.Awaited) (hsound : s.Sound) (k : Nat) : (s.proceed k).Awaited := by
  have hcall {s : Session} (h : s.Awaited) {c c' : Call} (hk : s.call k = c)
      (hc : c.joined? = none) (hc' : s.SeenTo c') : (s.setCall k c').Awaited :=
    h.setCall (fun i heq => by simp [hk, hc] at heq) hc'
  have hlock (lock : Lock) (asked : Nat) : ({ s with lock, asked } : Session).Awaited :=
    h.keep rfl (fun _ _ hr => hr) (fun _ => rfl) rfl
  have hseen := h.seen k
  unfold Session.proceed
  split
  · rename_i hk _
    exact hcall (hlock _ s.asked) hk rfl trivial
  · rename_i hk _
    exact hcall (hlock _ _) hk rfl trivial
  · rename_i hk _
    exact hcall h hk rfl trivial
  · rename_i since hk hfree
    rw [hk] at hseen
    -- as the lock is free, whoever runs is listed
    refine hcall h hk rfl ⟨hseen, fun i id _ hr => .inl ?_⟩
    simpa [hfree, Lock.begun?] using hsound.listed i id hr
  · rename_i hk
    exact h.takeHandle hk
  · rename_i since left i hk
    split
    · rename_i hgone
      have hseen := (h.tellPanic i).seen k
      rw [call_tellPanic, hk] at hseen
      refine (h.tellPanic i).setCall (fun j heq => ?_) hseen
      rw [call_tellPanic, hk] at heq
      cases heq
      rw [gone_tellPanic, hgone]
    · exact h
  · rename_i since hk hfree
    rw [hk] at hseen
    have hprune : s.prune.Awaited := h.keep rfl (fun _ _ hr => hr) (fun _ => rfl) rfl
    refine hcall hprune hk rfl ⟨hseen.1, fun i id hi hr => ?_⟩
    exact (hseen.2 i id hi hr).resolve_left List.not_mem_nil
  · exact h

theorem Awaited.hold (h : s.Awaited) (hsound : s.Sound) (hheld : s.Held) (thread : Bool) :
    (s.hold thread).Awaited := by
  have hlock {s : Session} (h : s.Awaited) (lock : Lock) : ({ s with lock } : Session).Awaited :=
    h.keep rfl (fun _ _ hr => hr) (fun _ => rfl) rfl
  have hrelease {s : Session} (h : s.Awaited) {k : Nat} {c : Call} (hk : s.call k = .holding)
      (hc : ∀ s : Session, s.SeenTo c) : (s.release k c).Awaited :=
    (hlock h .free).setCall (fun i heq => by simp [hk, Call.joined?] at heq) (hc _)
  have hholding {k : Nat} (hk : s.lock.holder? = some k) : s.call k = .holding := hheld k hk
  unfold Session.hold
  split
  · exact h
  · exact h.keep rfl (fun _ _ hr => hr) (fun _ => rfl) rfl
  · rename_i k count heq
    have hnote : ({ s with engine := s.engine.note (.startedProducers count) } : Session).Awaited :=
      h.keep rfl (fun _ _ hr => hr) (fun _ => rfl) rfl
    exact hrelease hnote (hholding (by rw [heq]; rfl)) fun _ => trivial
  · rename_i k n left count heq
    split
    · exact hlock h _
    · rename_i hidle
      have hidle : (s.engine.feeder n.id).running = false := by simpa using hidle
      split
      · exact hlock (h.begin hsound hidle) _
      · exact hrelease (h.dropHandle hsound hidle) (hholding (by rw [heq]; rfl)) fun _ => trivial
  · rename_i k alive heq
    exact hrelease h (hholding (by rw [heq]; rfl)) fun _ => trivial
  · rename_i k id left alive heq
    refine h.keep (s.engine.length_loops_stop id) (fun i other hr => ?_)
      (Engine.feeder_stop_congr Feeder.unjoined (fun _ => rfl) s.engine id) rfl
    exact ⟨(s.owns_request id i other).mp hr.1, hr.2⟩

theorem Awaited.work (h : s.Awaited) (i : Nat) (messages : List Message)
    (progress : Producer.Progress) : (s.work i messages progress).Awaited := by
  unfold Session.work
  split
  · rename_i loop hloop
    split
    · exact h
    · rename_i hgoing
      refine h.keep List.length_set (fun j id hr => ⟨?_, hr.2⟩) (fun _ => rfl) rfl
      exact ((SameLoops.set hloop (by simpa using hgoing) progress rfl).owns_iff j id).mp hr.1
  · exact h

theorem Awaited.leave (h : s.Awaited) (i : Nat) : (s.leave i).Awaited := by
  unfold Session.leave
  split
  · split
    · exact h.keep rfl (fun _ _ hr => ⟨hr.1, (stays_of_update hr.2).2⟩)
        (Engine.feeder_setFeeder_congr Feeder.unjoined rfl) rfl
    · exact h
  · exact h

theorem Awaited.act (h : s.Awaited) (hsound : s.Sound) (hheld : s.Held) (a : Act) :
    (s.act a).Awaited := by
  cases a with
  | make k order => exact h.make k order
  | proceed k => exact h.proceed hsound k
  | hold thread => exact h.hold hsound hheld thread
  | work i messages progress => exact h.work i messages progress
  | ask i => exact h.keep rfl (fun _ _ hr => hr) (fun _ => rfl) rfl
  | leave i => exact h.leave i

theorem awaited_after (rs : Ruleset) (acts : List Act) : (after rs acts).Awaited :=
  have h := run_induction (P := fun s => s.Sound ∧ s.Held ∧ s.Awaited)
    (fun _ a h => ⟨h.1.act a, h.2.1.act a, h.2.2.act h.1 h.2.1 a⟩)
    ⟨sound_opened rs, held_of_free rfl, awaited_opened rs⟩ acts
  h.2.2

/-- When a wait is over, each loop that began before the wait was made is gone, and so has ended,
unless another wait has its handle and still waits for it. -/
theorem waited_behind_loops (rs : Ruleset) (acts : List Act) :
    let s := after rs acts
    ∀ k since, s.call k = .waited since → ∀ (i : Nat) (loop : Loop), i < since →
      s.engine.loops[i]? = some loop →
      s.gone i = true ∧ Engine.hasEnded loop.progress = true ∨
        ∃ other ≠ k, ∃ since' left, s.call other = .joining since' left (some i) := by
  intro s k since hover i loop hlt hloop
  have hseen : s.SeenTo (s.call k) := (awaited_after rs acts).seen k
  rw [hover] at hseen
  cases hgone : s.gone i with
  | true =>
    obtain ⟨loop', hloop', hended⟩ := (sound_after rs acts).ended i hgone
    cases hloop.symm.trans hloop'
    exact .inl ⟨rfl, hended⟩
  | false =>
    obtain ⟨other, hjoined⟩ := hseen.2 i loop.producer.id hlt ⟨⟨loop, hloop, rfl⟩, hgone⟩
    obtain ⟨since', left, hother⟩ := Call.exists_of_joined?_eq_some hjoined
    refine .inr ⟨other, ?_, since', left, hother⟩
    rintro rfl
    rw [hover] at hother
    cases hother

/-- A wait is made before the loop has ended, and goes on when it has. -/
theorem waited_behind_loops_idling :
    let s := after idling [.make 0 .start, .proceed 0, .hold true, .hold true, .hold true,
      .make 1 .wait, .proceed 1, .proceed 1, .work 0 [] .returned, .leave 0, .proceed 1, .proceed 1]
    s.call 1 = .waited 1 ∧ ∃ loop, s.engine.loops[0]? = some loop ∧
      (s.gone 0 = true ∧ Engine.hasEnded loop.progress = true ∨
        ∃ other ≠ 1, ∃ since' left, s.call other = .joining since' left (some 0)) := by
  intro s
  have hover : s.call 1 = .waited 1 := by
    simp only [s, idling]
    rfl
  have hsome : s.engine.loops[0]?.isSome = true := by
    simp only [s, idling]
    rfl
  obtain ⟨loop, hloop⟩ := Option.isSome_iff_exists.mp hsome
  exact ⟨hover, loop, hloop, waited_behind_loops idling _ 1 1 hover 0 loop Nat.one_pos hloop⟩

/-- Two waits overlap: the second one finds no handle, and is over while the loop runs. -/
theorem overlapping_wait_leaves_loop :
    let s := after idling [.make 0 .start, .proceed 0, .hold true, .hold true, .hold true,
      .make 1 .wait, .proceed 1, .proceed 1, .make 2 .wait, .proceed 2, .proceed 2, .proceed 2]
    s.call 0 = .started 1 ∧ s.call 2 = .waited 1 ∧ s.gone 0 = false ∧
      (s.engine.loops[0]?).map (fun loop => Engine.hasEnded loop.progress) = some false := by
  intro s
  simp only [s, idling]
  refine ⟨?_, ?_, ?_, ?_⟩ <;> rfl

end Session
end RuleGraph
