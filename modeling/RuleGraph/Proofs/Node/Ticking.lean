import Mathlib
import RuleGraph.Node.Timer

/-!
# What a timer emits

How a producer runs depends on how its waits end: each of them because its time is over, or because
a stop is seen. Whatever comes, a timer emits 1, 2, 3, … in order. It ends when it sees a stop, and
with a count when so many messages are out, but not before the first one.
-/
namespace RuleGraph

namespace Producer

inductive Wake
  | onTime
  | onStop
  deriving DecidableEq, Repr

/-- What a run depends on: how its waits end, in order, and what the clock tells in each of the
messages that have the time on them. A wait of which nothing is said does not end. -/
structure Course where
  wake : Nat → Option Wake
  clock : Nat → String

/-- Where all waits end alike, and the clock stands still. -/
def Course.uniform (now : String) (stopped patient : Bool) : Course :=
  ⟨fun _ => if stopped then some .onStop else if patient then some .onTime else none, fun _ => now⟩

/-- The messages emitted within so many moves from a move on, and where the producer stands behind
them, when `waits` waits have ended before and `sent` messages were emitted. -/
def follow (p : Producer) (c : Course) (moves waits sent at_ : Nat) : List Message × Progress :=
  match moves with
  | 0 => ([], .waiting at_)
  | moves + 1 =>
    match p.move at_ with
    | .emit m next =>
      let (ms, progress) := follow p c moves waits (sent + 1) next
      (m :: ms, progress)
    | .emitTimed key m next =>
      let (ms, progress) := follow p c moves waits (sent + 1) next
      (m.set key (.string (c.clock sent)) :: ms, progress)
    | .pause _ onTime onStop =>
      match c.wake waits with
      | some .onTime => follow p c moves (waits + 1) sent onTime
      | some .onStop => follow p c moves (waits + 1) sent onStop
      | none => ([], .waiting at_)
    | .awaitStop next =>
      match c.wake waits with
      | some .onStop => follow p c moves (waits + 1) sent next
      | _ => ([], .waiting at_)
    | .finish => ([], .returned)
    | .fail e => ([], .failed e)
    | .panic => ([], .panicked)

/-- A run in which all waits end alike follows the course where they do. -/
theorem run_eq_follow (p : Producer) (now : String) (stopped patient : Bool)
    (moves waits sent at_ : Nat) : p.run now stopped patient moves at_ =
      p.follow (.uniform now stopped patient) moves waits sent at_ := by
  induction moves generalizing waits sent at_ with
  | zero => rfl
  | succ moves ih =>
    rw [run, follow]
    cases p.move at_ with
    | emit m next => simp only [ih waits (sent + 1) next]
    | emitTimed key m next =>
      simp only [ih waits (sent + 1) next]
      rfl
    | pause time onTime onStop =>
      cases stopped <;> cases patient <;> first | rfl | exact ih _ _ _
    | awaitStop next =>
      cases stopped <;> cases patient <;> first | rfl | exact ih _ _ _
    | finish => rfl
    | fail e => rfl
    | panic => rfl

end Producer

namespace Timer

open Producer (Course)

variable {t : Timer} {c : Course}

/-- The message that comes when `n` others are out. -/
def tick (c : Course) (n : Nat) : Message :=
  (Message.ofPayload (.int (n + 1 : Nat))).set timeKey (.string (c.clock n))

/-- The first messages. -/
def ticks (c : Course) (k : Nat) : List Message := (List.range k).map (tick c)

/-- Enough messages are out; the first one always goes out. -/
def Over (t : Timer) (n : Nat) : Prop := ∃ most, t.count = some most ∧ max most 1 ≤ n

theorem not_over_zero (t : Timer) : ¬t.Over 0 := by
  rintro ⟨most, -, hle⟩
  omega

theorem over_succ_iff (t : Timer) (n : Nat) : t.Over (n + 1) ↔ t.isDone (n + 1) = true := by
  unfold Over isDone
  cases t.count with
  | none => simp
  | some most => simp

/-! ### One round -/

/-- The move at which a timer stands when `n` messages are out. -/
def place (t : Timer) (n : Nat) : Nat := if n ≠ 0 ∧ t.isDone n then 0 else 2 * n + 1

theorem place_of_over {n : Nat} (h : t.Over n) : t.place n = 0 := by
  cases n with
  | zero => exact absurd h t.not_over_zero
  | succ n => exact if_pos ⟨n.succ_ne_zero, (t.over_succ_iff n).mp h⟩

theorem place_of_not_over {n : Nat} (h : ¬t.Over n) : t.place n = 2 * n + 1 := by
  cases n with
  | zero => rfl
  | succ n => exact if_neg fun hdone => h ((t.over_succ_iff n).mpr hdone.2)

theorem place_succ (t : Timer) (n : Nat) :
    t.place (n + 1) = if t.isDone (n + 1) then 0 else 2 * n + 3 := by
  simp [place, Nat.mul_add]

theorem move_wait (t : Timer) (n : Nat) :
    t.producer.move (2 * n + 1) = .pause t.interval (2 * n + 2) 0 := by
  simp [producer, move]

theorem move_emit (t : Timer) (n : Nat) : t.producer.move (2 * n + 2) =
    .emitTimed timeKey (.ofPayload (.int (n + 1 : Nat))) (t.place (n + 1)) := by
  have hhalf : (2 * n + 1) / 2 = n := by omega
  simp [producer, move, hhalf, place_succ, Nat.add_mod]

theorem follow_over {n : Nat} (h : t.Over n) (moves : Nat) :
    t.producer.follow c (moves + 1) n n (t.place n) = ([], .returned) := by
  rw [place_of_over h]
  rfl

theorem follow_wait {n : Nat} (h : ¬t.Over n) (moves : Nat) :
    t.producer.follow c (moves + 1) n n (t.place n) =
      match c.wake n with
      | some .onTime => t.producer.follow c moves (n + 1) n (2 * n + 2)
      | some .onStop => t.producer.follow c moves (n + 1) n 0
      | none => ([], .waiting (2 * n + 1)) := by
  rw [place_of_not_over h, Producer.follow, move_wait]

/-- A wait that ends in time brings the next message. -/
theorem follow_round {n : Nat} (h : ¬t.Over n) (hwake : c.wake n = some .onTime) (moves : Nat) :
    t.producer.follow c (moves + 2) n n (t.place n) =
      (tick c n :: (t.producer.follow c moves (n + 1) (n + 1) (t.place (n + 1))).1,
        (t.producer.follow c moves (n + 1) (n + 1) (t.place (n + 1))).2) := by
  rw [follow_wait h, hwake]
  simp only [Producer.follow, move_emit]
  rfl

theorem follow_stop {n : Nat} (h : ¬t.Over n) (hwake : c.wake n = some .onStop) (moves : Nat) :
    t.producer.follow c (moves + 2) n n (t.place n) = ([], .returned) := by
  rw [follow_wait h, hwake]
  rfl

/-! ### Many rounds -/

/-- The first messages, and what comes behind them. -/
theorem follow_rounds {k : Nat} (hover : ∀ n < k, ¬t.Over n)
    (hwake : ∀ n < k, c.wake n = some .onTime) (moves : Nat) :
    t.producer.follow c (moves + 2 * k) 0 0 t.producer.start =
      (ticks c k ++ (t.producer.follow c moves k k (t.place k)).1,
        (t.producer.follow c moves k k (t.place k)).2) := by
  induction k generalizing moves with
  | zero => rfl
  | succ k ih =>
    have hmoves : moves + 2 * (k + 1) = moves + 2 + 2 * k := by omega
    rw [hmoves, ih (fun n hn => hover n (hn.trans k.lt_succ_self))
      (fun n hn => hwake n (hn.trans k.lt_succ_self)),
      follow_round (hover k k.lt_succ_self) (hwake k k.lt_succ_self)]
    simp [ticks, List.range_succ]

/-- Whatever comes, no message is left out and none comes when the timer is over. -/
theorem exists_ticks (t : Timer) (c : Course) (moves n : Nat) : ∃ k,
    (t.producer.follow c moves n n (t.place n)).1 = (List.range' n k).map (tick c) ∧
      ∀ i < k, ¬t.Over (n + i) := by
  induction moves using Nat.strong_induction_on generalizing n with
  | _ moves ih =>
    have hnone : ∀ i < 0, ¬t.Over (n + i) := by simp
    obtain _ | moves := moves
    · exact ⟨0, rfl, hnone⟩
    by_cases hover : t.Over n
    · exact ⟨0, by rw [follow_over hover]; rfl, hnone⟩
    cases hwake : c.wake n with
    | none => exact ⟨0, by rw [follow_wait hover, hwake]; rfl, hnone⟩
    | some wake =>
      obtain _ | moves := moves
      · exact ⟨0, by rw [follow_wait hover, hwake]; cases wake <;> rfl, hnone⟩
      cases wake with
      | onStop => exact ⟨0, by rw [follow_stop hover hwake]; rfl, hnone⟩
      | onTime =>
        obtain ⟨k, hticks, hrest⟩ := ih moves (by omega) (n + 1)
        refine ⟨k + 1, ?_, fun i hi => ?_⟩
        · rw [follow_round hover hwake, hticks, List.range'_succ, List.map_cons]
        · cases i with
          | zero => exact hover
          | succ i =>
            rw [← Nat.add_assoc, Nat.add_right_comm]
            exact hrest i (Nat.lt_of_succ_lt_succ hi)

/-! ### The count -/

theorem readDigits_le {limit n m : Nat} {beyond : NumberFault} {cs : List Char} (hn : n ≤ limit)
    (h : Text.readDigits limit beyond n cs = .ok m) : m ≤ limit := by
  induction cs generalizing n with
  | nil =>
    cases h
    exact hn
  | cons d cs ih =>
    simp only [Text.readDigits] at h
    split at h
    · split at h
      · cases h
      · rename_i hle
        exact ih (Nat.le_of_not_lt hle) h
    · cases h

theorem readUnsigned_lt {bits m : Nat} {cs : List Char} (h : Text.readUnsigned bits cs = .ok m) :
    m < 2 ^ bits := by
  have hle : m ≤ Nat.pow 2 bits - 1 := by
    unfold Text.readUnsigned at h
    split at h
    · cases h
    · cases h
    · exact readDigits_le (Nat.zero_le _) h
    · exact readDigits_le (Nat.zero_le _) h
  have hpos : 0 < Nat.pow 2 bits := Nat.two_pow_pos bits
  exact (Nat.le_sub_one_iff_lt hpos).mp hle

theorem exists_of_bind_eq_ok {ε α β : Type} {x : Except ε α} {f : α → Except ε β} {b : β}
    (h : (x >>= f) = .ok b) : ∃ a, x = .ok a ∧ f a = .ok b := by
  cases x with
  | error e => cases h
  | ok a => exact ⟨a, rfl, h⟩

/-- A count has 64 bits. -/
theorem count_lt {params : Params} {most : Nat} (h : ofParams params = .ok t)
    (hcount : t.count = some most) : most < 2 ^ 64 := by
  obtain ⟨freq, -, h⟩ := exists_of_bind_eq_ok h
  simp only at h
  split at h
  · cases h
  · obtain ⟨count, hread, h⟩ := exists_of_bind_eq_ok h
    cases h
    obtain rfl : count = some most := hcount
    unfold Params.read? at hread
    split at hread
    · cases hread
    · split at hread
      · rename_i hvalue
        cases hread
        exact readUnsigned_lt hvalue
      · cases hread

/-- A counter of 64 bits behind so many ticks. -/
def counter (k : Nat) : UInt64 := (fun s => s + 1)^[k] 0

theorem toNat_counter {k : Nat} (h : k < 2 ^ 64) : (counter k).toNat = k := by
  induction k with
  | zero => rfl
  | succ k ih =>
    have hk : (counter k).toNat = k := ih (by omega)
    rw [counter, Function.iterate_succ_apply', ← counter, UInt64.toNat_add, hk]
    exact Nat.mod_eq_of_lt h

/-- A timer sends 1, 2, 3, … in order. When it has a count it ends behind so many messages, or
behind the first one where the count is less, unless it sees a stop before. Without a count it goes
on until it sees one. The numbers are those of a counter of 64 bits as long as this does not
overflow, and it never does where there is a count. -/
theorem emits_in_sequence {params : Params} (h : ofParams params = .ok t) (c : Course) :
    (∀ moves, ∃ k, (t.producer.follow c moves 0 0 t.producer.start).1 = ticks c k ∧
      ∀ most, t.count = some most → k ≤ max most 1) ∧
    (∀ k, (∀ most, t.count = some most → k < max most 1) →
      (∀ n < k, c.wake n = some .onTime) → c.wake k = some .onStop →
      ∀ moves, t.producer.follow c (moves + 2 * (k + 1)) 0 0 t.producer.start =
        (ticks c k, .returned)) ∧
    (∀ most, t.count = some most → (∀ n < max most 1, c.wake n = some .onTime) →
      ∀ moves, t.producer.follow c (moves + 1 + 2 * max most 1) 0 0 t.producer.start =
        (ticks c (max most 1), .returned)) ∧
    (t.count = none → ∀ k, (∀ n < k, c.wake n = some .onTime) →
      t.producer.follow c (2 * k) 0 0 t.producer.start = (ticks c k, .waiting (2 * k + 1))) ∧
    (∀ most, t.count = some most → max most 1 < 2 ^ 64) ∧
    ∀ n, n + 1 < 2 ^ 64 → (tick c n).payload = .int (counter (n + 1)).toNat := by
  refine ⟨fun moves => ?_, fun k hk hwake hstop moves => ?_, fun most hcount hwake moves => ?_,
    fun hcount k hwake => ?_, fun most hcount => ?_, fun n hn => ?_⟩
  · obtain ⟨k, hticks, hover⟩ := t.exists_ticks c moves 0
    refine ⟨k, by rw [ticks, List.range_eq_range', ← hticks]; rfl, fun most hcount => ?_⟩
    by_contra hlt
    exact hover (max most 1) (Nat.lt_of_not_le hlt) ⟨most, hcount, by omega⟩
  · have hover : ∀ n ≤ k, ¬t.Over n := by
      rintro n hn ⟨most, hcount, hle⟩
      exact absurd (hk most hcount) (by omega)
    have hmoves : moves + 2 * (k + 1) = moves + 2 + 2 * k := by omega
    rw [hmoves, follow_rounds (fun n hn => hover n hn.le) hwake,
      follow_stop (hover k le_rfl) hstop, List.append_nil]
  · have hover : ∀ n < max most 1, ¬t.Over n := by
      rintro n hn ⟨most', hcount', hle⟩
      obtain rfl : most = most' := Option.some.inj (hcount.symm.trans hcount')
      omega
    rw [follow_rounds hover hwake, follow_over ⟨most, hcount, le_rfl⟩, List.append_nil]
  · have hover : ∀ n, ¬t.Over n := by
      rintro n ⟨most, hsome, -⟩
      rw [hcount] at hsome
      cases hsome
    have hrounds := follow_rounds (fun n _ => hover n) hwake 0
    rwa [Nat.zero_add, place_of_not_over (hover k), Producer.follow, List.append_nil] at hrounds
  · have hlt := count_lt h hcount
    omega
  · rw [toNat_counter hn]
    rfl

/-- Two messages, when nobody asks the timer to stop. -/
theorem emits_in_sequence_twice :
    let t : Timer := ⟨.oneSecond, some 2⟩
    let c : Course := .uniform "noon" false true
    ofParams (.ofList [("count", "2")]) = .ok t ∧
      t.producer.follow c 5 0 0 t.producer.start = ([tick c 0, tick c 1], .returned) := by
  intro t c
  have ht : ofParams (.ofList [("count", "2")]) = .ok t := rfl
  exact ⟨ht, (emits_in_sequence ht c).2.2.1 2 rfl (fun n _ => rfl) 0⟩

/-- A timer with a count of zero sends a message. -/
theorem zero_count_emits_one :
    let t : Timer := ⟨.oneSecond, some 0⟩
    let c : Course := .uniform "noon" false true
    ofParams (.ofList [("count", "0")]) = .ok t ∧
      t.producer.follow c 3 0 0 t.producer.start = ([tick c 0], .returned) ∧
      ¬∃ k ≤ 0, [tick c 0] = ticks c k := by
  intro t c
  refine ⟨rfl, rfl, ?_⟩
  rintro ⟨k, hk, heq⟩
  obtain rfl := Nat.le_zero.mp hk
  cases heq

end Timer
end RuleGraph
