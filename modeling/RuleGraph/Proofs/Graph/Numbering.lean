import Mathlib.Algebra.Group.Nat.Defs
import RuleGraph.Graph.Build

/-!
# Numbers of nodes

Numbers are given out one after the other, and each time one is given out the journal tells of the
node. As long as no more are given out than there are words of 32 bits, all of them are different,
and so are the topics made of them, whatever the types of the nodes.
-/
namespace RuleGraph

namespace NodeId

def nth (n : Nat) : NodeId := ⟨.ofNat n⟩

def room : Nat := 2 ^ 32

theorem nth_next (n : Nat) : (nth n).next = nth (n + 1) := by
  simp [nth, next, UInt32.ofNat_add]

theorem nth_injective {m n : Nat} (hm : m < room) (hn : n < room) (h : nth m = nth n) : m = n := by
  have h := congrArg (fun id : NodeId => id.number.toNat) h
  simpa [nth, UInt32.toNat_ofNat_of_lt' (show m < UInt32.size from hm),
    UInt32.toNat_ofNat_of_lt' (show n < UInt32.size from hn)] using h

theorem toList_text (id : NodeId) : id.text.toList = Nat.toDigits 10 id.number.toNat := by
  simp [text, toString]

theorem text_injective {a b : NodeId} (h : a.text.toList = b.text.toList) : a = b := by
  rw [toList_text, toList_text] at h
  have hn := congrArg (Nat.ofDigitChars 10 · 0) h
  obtain ⟨a⟩ := a
  obtain ⟨b⟩ := b
  simpa [UInt32.toNat_inj] using hn

theorem notMem_text (id : NodeId) {c : Char} (hc : c.isDigit = false) : c ∉ id.text.toList := by
  rw [toList_text]
  intro h
  have hdigit := Nat.isDigit_of_mem_toDigits (by decide) (by decide) h
  rw [hc] at hdigit
  cases hdigit

end NodeId

/-- Two lists that are cut at their last colons agree on both parts. -/
theorem append_colon_inj {as bs cs ds : List Char} (hb : ':' ∉ bs) (hd : ':' ∉ ds)
    (h : as ++ ':' :: bs = cs ++ ':' :: ds) : as = cs ∧ bs = ds := by
  rcases List.append_eq_append_iff.mp h with ⟨es, rfl, htail⟩ | ⟨es, rfl, htail⟩
  · cases es with
    | nil => simpa using htail
    | cons e es =>
      simp only [List.cons_append, List.cons.injEq] at htail
      exact absurd (htail.2 ▸ by simp : ':' ∈ bs) hb
  · cases es with
    | nil => simpa [eq_comm] using htail
    | cons e es =>
      simp only [List.cons_append, List.cons.injEq] at htail
      exact absurd (htail.2 ▸ by simp : ':' ∈ ds) hd

/-- A topic tells the type and the number of its node, even if colons stand in the type. -/
theorem Topic.ofNode_inj {type other : String} {a b : NodeId}
    (h : Topic.ofNode type a = Topic.ofNode other b) : type = other ∧ a = b := by
  simp only [ofNode, Topic.mk.injEq] at h
  have hl : type.toList ++ ':' :: a.text.toList = other.toList ++ ':' :: b.text.toList := by
    simpa using congrArg String.toList h
  obtain ⟨htype, hid⟩ := append_colon_inj (a.notMem_text rfl) (b.notMem_text rfl) hl
  exact ⟨String.toList_inj.mp htype, NodeId.text_injective hid⟩

/-- A thread can be named after the topic. -/
def Topic.Nameable (t : Topic) : Prop := '\x00' ∉ t.text.toList

/-- This hangs on the type of the node. -/
theorem Topic.nameable_ofNode {type : String} {id : NodeId} :
    (Topic.ofNode type id).Nameable ↔ '\x00' ∉ type.toList := by
  have hid := id.notMem_text (c := '\x00') rfl
  simp [Nameable, ofNode, hid]

/-! ### Supplies -/

/-- How many nodes a journal tells of. -/
def constructions (journal : List Event) : Nat :=
  journal.countP fun | .constructed .. => true | _ => false

theorem constructions_append (j k : List Event) :
    constructions (j ++ k) = constructions j + constructions k := List.countP_append

namespace Supply

/-- The supply behind nodes of the given types, made from the given parameters. -/
def takeAll (s : Supply) (made : List (String × Params)) : Supply :=
  made.foldl (fun s m => s.take m.1 m.2) s

@[simp] theorem takeAll_nil (s : Supply) : s.takeAll [] = s := rfl

@[simp] theorem takeAll_cons (s : Supply) (m : String × Params) (made : List (String × Params)) :
    s.takeAll (m :: made) = (s.take m.1 m.2).takeAll made := rfl

theorem takeAll_append (s : Supply) (made more : List (String × Params)) :
    s.takeAll (made ++ more) = (s.takeAll made).takeAll more := List.foldl_append

theorem journal_takeAll (s : Supply) (made : List (String × Params)) :
    (s.takeAll made).journal = s.journal ++ made.map fun m => .constructed m.1 m.2 := by
  induction made generalizing s with
  | nil => simp
  | cons m made ih => simp [ih, take]

theorem next_take {s : Supply} {k : Nat} (h : s.next = .nth k) (type : String) (params : Params) :
    (s.take type params).next = .nth (k + 1) := by
  simp [take, h, NodeId.nth_next]

theorem next_takeAll {s : Supply} {k : Nat} (h : s.next = .nth k)
    (made : List (String × Params)) : (s.takeAll made).next = .nth (k + made.length) := by
  induction made generalizing s k with
  | nil => simpa using h
  | cons m made ih =>
    rw [takeAll_cons, ih (next_take h m.1 m.2), List.length_cons, Nat.add_right_comm, Nat.add_assoc]

theorem constructions_takeAll (s : Supply) (made : List (String × Params)) :
    constructions (s.takeAll made).journal = constructions s.journal + made.length := by
  rw [journal_takeAll, constructions_append]
  congr 1
  simp [constructions, List.countP_map, Function.comp_def]

end Supply
end RuleGraph
