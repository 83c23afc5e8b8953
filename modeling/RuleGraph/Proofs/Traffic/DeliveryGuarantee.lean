import Mathlib.Data.List.Infix
import Mathlib.Data.Nat.Find
import RuleGraph.Proofs.Traffic.Exchange

/-!
# What a bus guarantees

Every subscriber gets the messages that its topic accepted and that were dispatched since it came,
each once and in order, and the subscribers of a topic are called one after another. Panics change
nothing of that. A bus that was shut down accepts nothing more; what it had accepted is handled as
long as the dispatchers go on.
-/
namespace RuleGraph

namespace Stage

variable {σ : Type}

/-- What a subscriber has still to be called with for the message at hand. -/
def due (number : Nat) : Stage σ → List Message
  | .handing m found done => if done ≤ number ∧ number < found.length then [m] else []
  | .calling m found done _ => if done < number ∧ number < found.length then [m] else []
  | _ => []

theorem length_due_le (stage : Stage σ) (number : Nat) : (stage.due number).length ≤ 1 := by
  cases stage <;> simp only [due] <;> try split
  all_goals simp

end Stage

namespace Bus

variable {σ : Type}

theorem publish_events (bus : Bus σ) (events : List Event) (topic : Topic) (m : Message) :
    ({ bus with events } : Bus σ).publish topic m = { bus.publish topic m with events } := by
  cases hclosed : bus.closed <;> simp [publish, update, hclosed]

theorem join_events (bus : Bus σ) (events : List Event) (topic : Topic) (n : σ) :
    ({ bus with events } : Bus σ).join topic n = { bus.join topic n with events } := by
  simp only [join, channel?, update]
  split <;> rfl

theorem subscribe_events (threads : Threads) (bus : Bus σ) (events : List Event) (topic : Topic)
    (n : σ) :
    ({ bus with events } : Bus σ).subscribe threads topic n =
      (bus.subscribe threads topic n).map fun taken => ({ taken.1 with events }, taken.2) := by
  have hchannel : ({ bus with events } : Bus σ).channel? topic = bus.channel? topic := rfl
  simp only [subscribe, join_events, hchannel]
  cases bus.closed
  · cases (bus.channel? topic).isSome
    · by_cases hname : '\x00' ∈ topic.text.toList
      · simp [hname, Except.map]
      · cases threads.start <;> simp [hname, Except.map]
    · rfl
  · rfl

end Bus

namespace Exchange

variable {σ : Type} {x : Exchange σ} {t : Topic}

/-! ### One subscriber -/

/-- What a call hands to the subscriber of a number. -/
def handed (number : Nat) : Occurrence σ → Option Message
  | .called _ i m => if i = number then some m else none
  | _ => none

theorem filterMap_turns (t : Topic) (m : Message) (first count number : Nat) :
    (turns t m first count : List (Occurrence σ)).filterMap (handed number) =
      if first ≤ number ∧ number < first + count then [m] else [] := by
  induction count generalizing first with
  | zero => simp [turns]
  | succ count ih =>
    rw [turns_succ, List.filterMap_cons, List.filterMap_cons, ih]
    by_cases hfirst : first = number
    · subst hfirst
      simp [handed]
    · have hlt : first ≤ number ↔ first + 1 ≤ number := by omega
      have hadd : first + 1 + count = first + (count + 1) := by omega
      simp [handed, hfirst, hlt, hadd]

theorem filterMap_left (stage : Stage σ) (t : Topic) (number : Nat) :
    (stage.left t).filterMap (handed number) = stage.due number := by
  cases stage with
  | handing m found done =>
    simp only [Stage.left, filterMap_turns, Stage.due]
    congr 1
    simp only [eq_iff_iff]
    omega
  | calling m found done unpublished =>
    simp only [Stage.left, List.filterMap_cons, handed, filterMap_turns, Stage.due]
    congr 1
    simp only [eq_iff_iff]
    omega
  | _ => rfl

theorem invoked_eq (t : Topic) (number : Nat) (past : List (Occurrence σ)) :
    invoked t number past = (calls t past).filterMap (handed number) := by
  induction past with
  | nil => rfl
  | cons o past ih =>
    cases o with
    | called topic i m =>
      by_cases htopic : topic = t <;> by_cases hnumber : i = number <;>
        simp [invoked, calls, handed, htopic, hnumber, ih]
    | returned topic i m =>
      by_cases htopic : topic = t <;> simp [invoked, calls, handed, htopic, ih]
    | _ => simp [invoked, calls, ih]

theorem dispatchedSince_eq (t : Topic) (number : Nat) (past : List (Occurrence σ)) :
    dispatchedSince t number past = (rounds t past).filterMap (handed number) := by
  induction past with
  | nil => rfl
  | cons o past ih =>
    cases o with
    | dispatched topic m =>
      by_cases htopic : topic = t <;>
        simp [dispatchedSince, rounds, filterMap_turns, htopic, ih]
    | _ => simp [dispatchedSince, rounds, ih]

/-- A subscriber is called with what was dispatched since it came, but for the message at hand. -/
theorem Orderly.invoked (h : x.Orderly) (t : Topic) (number : Nat) :
    invoked t number x.past ++ (x.stage t).due number = dispatchedSince t number x.past := by
  rw [invoked_eq, dispatchedSince_eq, ← (h.served t).rounds, List.filterMap_append, filterMap_left]

theorem dispatchedSince_eq_nil {number : Nat} {past : List (Occurrence σ)}
    (h : (subscribersOf t past).length ≤ number) : dispatchedSince t number past = [] := by
  induction past with
  | nil => rfl
  | cons o past ih =>
    cases o with
    | subscribed topic n =>
      refine ih (le_trans ?_ h)
      simp [subscribersOf]
    | dispatched topic m =>
      have hlate : ¬number < (subscribersOf t past).length := Nat.not_lt.mpr h
      simp [dispatchedSince, ih h, hlate]
    | _ => exact ih h

/-- What was dispatched since a subscriber came are the last messages dispatched. -/
theorem dispatchedSince_suffix (t : Topic) (number : Nat) (past : List (Occurrence σ)) :
    dispatchedSince t number past <:+ dispatched t past := by
  induction past with
  | nil => exact List.suffix_refl []
  | cons o past ih =>
    cases o with
    | dispatched topic m =>
      rw [dispatchedSince, dispatched]
      by_cases hcame : number < (subscribersOf t past).length
      · obtain ⟨earlier, hearlier⟩ := ih
        exact ⟨earlier, by simp [hcame, ← hearlier]⟩
      · simp [hcame, dispatchedSince_eq_nil (Nat.not_lt.mp hcame)]
    | _ => exact ih

/-! ### Panics -/

/-- An exchange with other events told. -/
def withEvents (x : Exchange σ) (events : List Event) : Exchange σ :=
  { x with bus := { x.bus with events } }

/-- The same act, with a subscriber that does not panic. -/
def calm : Act σ → Act σ
  | .work topic answer => .work topic { answer with panicked := false }
  | a => a

theorem act_calm (x : Exchange σ) (events : List Event) (a : Act σ) :
    ∃ events', (x.withEvents events).act (calm a) = (x.act a).withEvents events' := by
  cases a with
  | subscribe threads topic n =>
    refine ⟨events, ?_⟩
    simp only [calm, act, subscribe, withEvents, Bus.subscribe_events]
    cases x.bus.subscribe threads topic n <;> rfl
  | publish topic m =>
    refine ⟨events, ?_⟩
    simp only [calm, act, publish, withEvents, Bus.publish_events]
  | shutdown => exact ⟨events, rfl⟩
  | work topic answer =>
    have hstage : (x.withEvents events).stage topic = x.stage topic := rfl
    simp only [calm, act, work, hstage]
    cases x.stage topic with
    | idle =>
      refine ⟨events, ?_⟩
      have hchannel : (x.withEvents events).bus.channel? topic = x.bus.channel? topic := rfl
      simp only [take, hchannel]
      split <;> rfl
    | holding m => exact ⟨events, rfl⟩
    | handing m found done =>
      dsimp only
      cases found[done]? with
      | some n => exact ⟨events ++ (answer.events ++ []), rfl⟩
      | none => exact ⟨events, rfl⟩
    | calling m found done unpublished =>
      refine ⟨events, ?_⟩
      cases unpublished with
      | nil => rfl
      | cons p ps => simp only [publish, withEvents, Bus.publish_events, setStage]

/-- Panics of subscribers change nothing but what is told of them. -/
theorem run_calm (x : Exchange σ) (events : List Event) (acts : List (Act σ)) :
    ∃ events', (x.withEvents events).run (acts.map calm) = (x.run acts).withEvents events' := by
  induction acts generalizing x events with
  | nil => exact ⟨events, rfl⟩
  | cons a acts ih =>
    obtain ⟨events', hact⟩ := act_calm x events a
    obtain ⟨events'', hrun⟩ := ih (x.act a) events'
    exact ⟨events'', by rw [List.map_cons, run_cons, hact, hrun, run_cons]⟩

/-! ### Shutdown -/

theorem exists_past_act (x : Exchange σ) (a : Act σ) : ∃ more, (x.act a).past = more ++ x.past := by
  cases a with
  | subscribe threads topic n =>
    simp only [act, subscribe]
    split
    · exact ⟨[], rfl⟩
    · exact ⟨[_], rfl⟩
  | publish topic m => exact ⟨[_], rfl⟩
  | shutdown => exact ⟨[_], rfl⟩
  | work topic answer =>
    simp only [act, work]
    split
    · rw [take]
      split <;> exact ⟨[], rfl⟩
    · exact ⟨[_], rfl⟩
    · split
      · exact ⟨[_], rfl⟩
      · exact ⟨[], rfl⟩
    · exact ⟨[_], rfl⟩
    · exact ⟨[_], rfl⟩

theorem exists_past_run (x : Exchange σ) (acts : List (Act σ)) :
    ∃ more, (x.run acts).past = more ++ x.past := by
  induction acts generalizing x with
  | nil => exact ⟨[], rfl⟩
  | cons a acts ih =>
    obtain ⟨more, hmore⟩ := exists_past_act x a
    obtain ⟨later, hlater⟩ := ih (x.act a)
    exact ⟨later ++ more, by rw [run_cons, hlater, hmore, List.append_assoc]⟩

theorem isShut_append {past : List (Occurrence σ)} (h : isShut past = true)
    (more : List (Occurrence σ)) : isShut (more ++ past) = true := by
  induction more with
  | nil => exact h
  | cons o more ih => cases o <;> simp [isShut, ih]

/-- After a shutdown nothing is accepted. -/
theorem accepted_append_of_isShut {past : List (Occurrence σ)} (h : isShut past = true)
    (more : List (Occurrence σ)) : accepted t (more ++ past) = accepted t past := by
  induction more with
  | nil => rfl
  | cons o more ih => cases o <;> simp [accepted, hasQueue, isShut_append h more, ih]

theorem accepted_remains (more past : List (Occurrence σ)) :
    accepted t past <+: accepted t (more ++ past) := by
  induction more with
  | nil => exact List.prefix_refl _
  | cons o more ih =>
    cases o with
    | published topic m => exact ih.trans (List.prefix_append _ _)
    | _ => exact ih

theorem dispatched_remains (more past : List (Occurrence σ)) :
    dispatched t past <+: dispatched t (more ++ past) := by
  induction more with
  | nil => exact List.prefix_refl _
  | cons o more ih =>
    cases o with
    | dispatched topic m => exact ih.trans (List.prefix_append _ _)
    | _ => exact ih

/-! ### Dispatchers that go on -/

/-- The exchange after the first acts of an endless schedule. -/
def along (x : Exchange σ) (schedule : ℕ → Act σ) (n : ℕ) : Exchange σ :=
  x.run ((List.range n).map schedule)

/-- The dispatcher of a topic goes on: again and again, it takes a step. -/
def GoesOn (t : Topic) (schedule : ℕ → Act σ) : Prop :=
  ∀ n, ∃ i ≥ n, ∃ answer, schedule i = .work t answer

variable {schedule : ℕ → Act σ}

theorem along_succ (x : Exchange σ) (schedule : ℕ → Act σ) (n : ℕ) :
    x.along schedule (n + 1) = (x.along schedule n).act (schedule n) := by
  simp [along, List.range_succ, run_append]

theorem Orderly.along (h : x.Orderly) (schedule : ℕ → Act σ) (n : ℕ) :
    (x.along schedule n).Orderly := h.run _

theorem exists_past_along (x : Exchange σ) (schedule : ℕ → Act σ) {n i : ℕ} (hle : n ≤ i) :
    ∃ more, (x.along schedule i).past = more ++ (x.along schedule n).past := by
  induction i, hle using Nat.le_induction with
  | base => exact ⟨[], rfl⟩
  | succ i _ ih =>
    obtain ⟨more, hmore⟩ := ih
    obtain ⟨later, hlater⟩ := exists_past_act (x.along schedule i) (schedule i)
    exact ⟨later ++ more, by rw [along_succ, hlater, hmore, List.append_assoc]⟩

theorem length_dispatched_mono (x : Exchange σ) (schedule : ℕ → Act σ) {n i : ℕ} (hle : n ≤ i) :
    (dispatched t (x.along schedule n).past).length ≤
      (dispatched t (x.along schedule i).past).length := by
  obtain ⟨more, hmore⟩ := exists_past_along x schedule hle
  exact hmore ▸ (dispatched_remains more _).length_le

/-- Nobody but its dispatcher changes the stage of a topic. -/
theorem stage_act {a : Act σ} (h : ∀ answer, a ≠ .work t answer) :
    (x.act a).stage t = x.stage t := by
  cases a with
  | subscribe threads topic n =>
    simp only [act, subscribe]
    split <;> rfl
  | publish topic m => rfl
  | shutdown => rfl
  | work topic answer =>
    have hne : t ≠ topic := by
      rintro rfl
      exact h answer rfl
    have hset (y : Exchange σ) (stage : Stage σ) : (y.setStage topic stage).stage t = y.stage t :=
      Function.update_of_ne hne ..
    simp only [act, work]
    split
    · rw [take]
      split
      · exact hset _ _
      · rfl
    · exact hset _ _
    · split <;> exact hset _ _
    · exact hset _ _
    · exact hset _ _

/-- The next step of a dispatcher finds the stage as it is. -/
theorem GoesOn.exists_next (h : GoesOn t schedule) (x : Exchange σ) (n : ℕ) :
    ∃ i ≥ n, (x.along schedule i).stage t = (x.along schedule n).stage t ∧
      ∃ answer, x.along schedule (i + 1) = (x.along schedule i).work t answer := by
  classical
  let i := Nat.find (h n)
  obtain ⟨hle, answer, hwork⟩ : n ≤ i ∧ ∃ answer, schedule i = .work t answer :=
    Nat.find_spec (h n)
  refine ⟨i, hle, ?_, answer, by rw [along_succ, hwork, act]⟩
  have hstays : ∀ j, n ≤ j → j ≤ i →
      (x.along schedule j).stage t = (x.along schedule n).stage t := by
    intro j hj
    induction j, hj using Nat.le_induction with
    | base => exact fun _ => rfl
    | succ j hj ih =>
      intro hlt
      have hother : ∀ answer, schedule j ≠ .work t answer := fun answer heq =>
        Nat.find_min (h n) hlt ⟨hj, answer, heq⟩
      rw [along_succ, stage_act hother, ih (Nat.le_of_succ_le hlt)]
  exact hstays i hle le_rfl

/-- A subscriber at work comes back. -/
theorem GoesOn.exists_back (h : GoesOn t schedule) (x : Exchange σ) {n : ℕ} {m : Message}
    {found : List σ} {done : ℕ} {unpublished : List (Topic × Message)}
    (hcalling : (x.along schedule n).stage t = .calling m found done unpublished) :
    ∃ i ≥ n, (x.along schedule i).stage t = .handing m found (done + 1) := by
  induction unpublished generalizing n with
  | nil =>
    obtain ⟨i, hle, hstage, answer, hnext⟩ := h.exists_next x n
    refine ⟨i + 1, Nat.le_succ_of_le hle, ?_⟩
    rw [hnext]
    simp only [work, hstage, hcalling, back, stage_setStage]
  | cons p ps ih =>
    obtain ⟨i, hle, hstage, answer, hnext⟩ := h.exists_next x n
    have hrest : (x.along schedule (i + 1)).stage t = .calling m found done ps := by
      rw [hnext]
      simp only [work, hstage, hcalling, stage_setStage]
    obtain ⟨j, hj, hback⟩ := ih hrest
    exact ⟨j, (Nat.le_succ_of_le hle).trans hj, hback⟩

/-- A dispatcher comes to the end of the subscribers that it found. -/
theorem GoesOn.exists_done (h : GoesOn t schedule) (x : Exchange σ) {n : ℕ} {m : Message}
    {found : List σ} {done : ℕ}
    (hhanding : (x.along schedule n).stage t = .handing m found done) :
    ∃ i ≥ n, (x.along schedule i).stage t = .idle := by
  induction hleft : found.length - done generalizing n done with
  | zero =>
    obtain ⟨i, hle, hstage, answer, hnext⟩ := h.exists_next x n
    have hnone : found[done]? = none := List.getElem?_eq_none_iff.mpr (by omega)
    refine ⟨i + 1, Nat.le_succ_of_le hle, ?_⟩
    rw [hnext]
    simp only [work, hstage, hhanding, hnone, stage_setStage]
  | succ left ih =>
    obtain ⟨i, hle, hstage, answer, hnext⟩ := h.exists_next x n
    have hlt : done < found.length := by omega
    have hcalling : (x.along schedule (i + 1)).stage t =
        .calling m found done answer.published := by
      rw [hnext]
      simp only [work, hstage, hhanding, List.getElem?_eq_getElem hlt, call, stage_setStage]
    obtain ⟨j, hj, hback⟩ := h.exists_back x hcalling
    obtain ⟨k, hk, hidle⟩ := ih hback (by omega)
    exact ⟨k, ((Nat.le_succ_of_le hle).trans hj).trans hk, hidle⟩

/-- A dispatcher looks for the subscribers of the message that it holds. -/
theorem GoesOn.exists_look (h : GoesOn t schedule) (x : Exchange σ) {n : ℕ} {m : Message}
    (hholding : (x.along schedule n).stage t = .holding m) :
    ∃ i ≥ n, ∃ found, (x.along schedule i).stage t = .handing m found 0 ∧
      (dispatched t (x.along schedule n).past).length <
        (dispatched t (x.along schedule i).past).length := by
  obtain ⟨i, hle, hstage, answer, hnext⟩ := h.exists_next x n
  refine ⟨i + 1, Nat.le_succ_of_le hle, (x.along schedule i).bus.listed t, ?_⟩
  rw [hnext]
  simp only [work, hstage, hholding, look, stage_setStage, true_and]
  simpa [setStage, dispatched] using Nat.lt_succ_of_le (length_dispatched_mono x schedule hle)

/-- A dispatcher comes to rest again and again. -/
theorem GoesOn.exists_idle (h : GoesOn t schedule) (x : Exchange σ) (n : ℕ) :
    ∃ i ≥ n, (x.along schedule i).stage t = .idle := by
  cases hstage : (x.along schedule n).stage t with
  | idle => exact ⟨n, le_rfl, hstage⟩
  | holding m =>
    obtain ⟨i, hi, found, hhanding, -⟩ := h.exists_look x hstage
    obtain ⟨j, hj, hidle⟩ := h.exists_done x hhanding
    exact ⟨j, hi.trans hj, hidle⟩
  | handing m found done => exact h.exists_done x hstage
  | calling m found done unpublished =>
    obtain ⟨i, hi, hhanding⟩ := h.exists_back x hstage
    obtain ⟨j, hj, hidle⟩ := h.exists_done x hhanding
    exact ⟨j, hi.trans hj, hidle⟩

/-- As long as something waits, a dispatcher that goes on takes it. -/
theorem GoesOn.exists_take (h : GoesOn t schedule) (x : Exchange σ) {n : ℕ}
    (hidle : (x.along schedule n).stage t = .idle)
    (hwaiting : ∀ i ≥ n, (x.along schedule i).stage t = .idle →
      (x.along schedule i).bus.waitingOn t ≠ []) :
    ∃ i ≥ n, ∃ m, (x.along schedule i).stage t = .holding m := by
  obtain ⟨i, hle, hstage, answer, hnext⟩ := h.exists_next x n
  have hidle := hstage.trans hidle
  have hwaiting := hwaiting i hle hidle
  cases hc : (x.along schedule i).bus.channel? t with
  | none => simp [Bus.waitingOn, hc] at hwaiting
  | some c =>
    obtain ⟨topic, waiting, subscribers⟩ := c
    cases waiting with
    | nil => simp [Bus.waitingOn, hc] at hwaiting
    | cons m rest =>
      refine ⟨i + 1, Nat.le_succ_of_le hle, m, ?_⟩
      rw [hnext]
      simp only [work, hidle, take, hc, stage_setStage]

/-- What a topic accepted is handled as long as its dispatcher goes on. -/
theorem Orderly.exists_handled (hx : x.Orderly) (h : GoesOn t schedule) :
    ∃ n, (x.along schedule n).stage t = .idle ∧
      accepted t x.past <+: dispatched t (x.along schedule n).past := by
  let handled (n : ℕ) : Prop := (x.along schedule n).stage t = .idle ∧
    (accepted t x.past).length ≤ (dispatched t (x.along schedule n).past).length
  have hfirst (n : ℕ) : accepted t x.past <+: accepted t (x.along schedule n).past := by
    obtain ⟨more, hmore⟩ := exists_past_along x schedule (Nat.zero_le n)
    exact hmore ▸ accepted_remains more _
  have hqueue (n : ℕ) := ((hx.along schedule n).served t).queue
  -- by the number of messages that are not dispatched yet: each time the dispatcher is idle, it
  -- takes one of them
  have hmain : ∀ missing n, (accepted t x.past).length ≤
      (dispatched t (x.along schedule n).past).length + missing → ∃ i ≥ n, handled i := by
    intro missing
    induction missing with
    | zero =>
      intro n hlength
      obtain ⟨i, hi, hidle⟩ := h.exists_idle x n
      exact ⟨i, hi, hidle, hlength.trans (length_dispatched_mono x schedule hi)⟩
    | succ missing ih =>
      intro n hlength
      obtain ⟨i, hi, hidle⟩ := h.exists_idle x n
      by_cases hdone : ∃ j ≥ i, handled j
      · obtain ⟨j, hj, hhandled⟩ := hdone
        exact ⟨j, hi.trans hj, hhandled⟩
      obtain ⟨j, hj, m, hholding⟩ := h.exists_take x hidle fun j hj hidle hempty => by
        refine hdone ⟨j, hj, hidle, ?_⟩
        have hall := hqueue j
        rw [hidle, hempty] at hall
        simpa [Stage.held, hall] using (hfirst j).length_le
      obtain ⟨k, hk, found, -, hmore⟩ := h.exists_look x hholding
      have hfrom := length_dispatched_mono (t := t) x schedule (hi.trans hj)
      obtain ⟨l, hl, hhandled⟩ := ih k (by omega)
      exact ⟨l, ((hi.trans hj).trans hk).trans hl, hhandled⟩
  obtain ⟨n, -, hidle, hlength⟩ := hmain _ 0 (Nat.le_add_left _ _)
  refine ⟨n, hidle, List.prefix_of_prefix_length_le (hfirst n) ?_ hlength⟩
  rw [hqueue n, List.append_assoc]
  exact List.prefix_append _ _

/-! ### The guarantee -/

/-- What a bus guarantees on each topic, whatever anybody does and in whatever order. What was
accepted was dispatched, is held by the dispatcher or waits, in the order of publication. A
subscriber was called with what was dispatched since it came, but for the message at hand if it
has not had it yet. The subscribers found for a message are called one after another, in the order
in which they came; the bus delivered to nobody else. Subscribers that panic change none of this.
The steps of a dispatcher that nobody interrupts do what `Bus.dispatch` does, and dispatch the first
of the messages that wait. After a shutdown nothing is accepted, and what was accepted is handled as
long as the dispatcher goes on. -/
theorem delivers_each_once_in_order (acts : List (Act σ)) (t : Topic) :
    let x := after acts
    accepted t x.past = dispatched t x.past ++ (x.stage t).held ++ x.bus.waitingOn t ∧
    (∀ number,
      dispatchedSince t number x.past <:+ dispatched t x.past ∧
      dispatchedSince t number x.past = invoked t number x.past ++ (x.stage t).due number ∧
      ((x.stage t).due number).length ≤ 1) ∧
    rounds t x.past = calls t x.past ++ (x.stage t).left t ∧
    List.Forall₂ (Makes x.past) x.bus.delivered (allCalls x.past) ∧
    (∃ events, after (acts.map calm) = x.withEvents events) ∧
    (∀ handle, x.stage t = .idle →
      ∃ past, dispatched t past = dispatched t x.past ++ (x.bus.waitingOn t).take 1 ∧
        after (acts ++ dispatching handle x.bus t) =
          { x with bus := x.bus.dispatch handle t, past }) ∧
    (∀ later, accepted t (after (acts ++ .shutdown :: later)).past = accepted t x.past) ∧
    ∀ schedule, GoesOn t schedule →
      ∃ n, let y := x.along schedule n
        y.stage t = .idle ∧ accepted t x.past <+: dispatched t y.past ∧
          rounds t y.past = calls t y.past := by
  intro x
  have hx : x.Orderly := orderly_after acts
  refine ⟨(hx.served t).queue, fun number => ⟨?_, ?_, ?_⟩, (hx.served t).rounds.symm, hx.delivered,
    ?_, fun handle hidle => ?_, fun later => ?_, fun schedule hgoes => ?_⟩
  · exact dispatchedSince_suffix t number x.past
  · exact (hx.invoked t number).symm
  · exact (x.stage t).length_due_le number
  · exact run_calm opened [] acts
  · obtain ⟨past, hpast, hrun⟩ := run_dispatching handle x t hidle
    exact ⟨past, hpast, (run_append opened acts _).trans hrun⟩
  · obtain ⟨more, hmore⟩ := exists_past_run x.shutdown later
    have hafter : after (acts ++ .shutdown :: later) = x.shutdown.run later :=
      run_append opened acts (.shutdown :: later)
    rw [hafter, hmore]
    exact accepted_append_of_isShut rfl more
  · obtain ⟨n, hidle, hhandled⟩ := hx.exists_handled hgoes
    have hrounds := ((hx.along schedule n).served t).rounds
    rw [hidle] at hrounds
    exact ⟨n, hidle, hhandled, by simpa [Stage.left] using hrounds.symm⟩

/-- Two subscribers and two messages, a shutdown, and a dispatcher that goes on although each call
publishes another message and ends in a panic. -/
theorem delivers_each_once_in_order_panics :
    let t : Topic := ⟨"a:0"⟩
    let m (n : Int) : Message := .ofPayload (.int n)
    let acts : List (Act String) :=
      [.subscribe (.few 1 "busy") t "p", .publish t (m 1), .publish t (m 2),
        .subscribe (.few 0 "busy") t "q", .shutdown]
    let schedule : ℕ → Act String := fun _ => .work t ⟨[(t, m 3)], [], true⟩
    GoesOn t schedule ∧ accepted t (after acts).past = [m 1, m 2] ∧
      ∃ n, let y := (after acts).along schedule n
        [m 1, m 2] <+: dispatched t y.past ∧ rounds t y.past = calls t y.past := by
  intro t m acts schedule
  have hgoes : GoesOn t schedule := fun n => ⟨n, le_rfl, _, rfl⟩
  have haccepted : accepted t (after acts).past = [m 1, m 2] := by
    simp only [acts, t, m]
    cbv
  obtain ⟨n, -, hdispatched, hrounds⟩ :=
    (delivers_each_once_in_order acts t).2.2.2.2.2.2.2 schedule hgoes
  exact ⟨hgoes, haccepted, n, haccepted ▸ hdispatched, hrounds⟩

end Exchange
end RuleGraph
