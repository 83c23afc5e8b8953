import RuleGraph.Regex.ByteSequence
import RuleGraph.Regex.Pattern
import Std.Data.HashMap

/-!
# The room that a pattern takes

A pattern is worked on by machines that take texts byte by byte, one from the front and one from the
back. Counted repetitions are written out in them, so a short text can denote a large machine, and
patterns whose machines take too much room are refused.

This module adds the states of a machine one by one, without the machine itself. States that begin
alike, or end alike, are shared within a set of characters as far as a table of the states made so
far shows them: each has a place in the table, and a later state may take over the place.
-/
namespace RuleGraph.Regex

open Unicode (Ranges)

/-- The number of states of a machine, and the bytes that they take. -/
structure Room where
  states : Nat := 0
  bytes : Nat := 0
  deriving Repr

namespace Room

/-- A machine that takes more bytes is refused. -/
def most : Nat := 10 * 1024 * 1024

def stateBytes : Nat := 32

/-- The bytes of one step out of a state with several steps by byte. -/
def stepBytes : Nat := 8

/-- The bytes of one way out of a state that only branches. -/
def wayBytes : Nat := 4

/-- Some more bytes. -/
def extend? (bytes : Nat) (r : Room) : Option Room :=
  if most < r.bytes + bytes then none else some { r with bytes := r.bytes + bytes }

/-- One more state, with the bytes of what it holds. -/
def add? (held : Nat) (r : Room) : Option Room :=
  ({ r with states := r.states + 1 } : Room).extend? (stateBytes + held)

/-- So many more states that hold nothing. -/
def addPlain? (n : Nat) (r : Room) : Option Room :=
  ({ r with states := r.states + n } : Room).extend? (n * stateBytes)

/-- A state with ways out, so many. -/
def addFork? (ways : Nat) (r : Room) : Option Room := r.add? (ways * wayBytes)

/-- Add the same so many times, as long as there is room. -/
def times? (f : Room → Option Room) : Nat → Room → Option Room
  | 0, r => some r
  | n + 1, r =>
    match f r with
    | some r => times? f n r
    | none => none

/-- A step to a state by a range of bytes. -/
structure Step where
  bytes : ByteRange
  target : Nat
  deriving DecidableEq, Repr

/-- The places of a table: a state stands at the place that its key gives. -/
structure Shared (α : Type) where
  places : Nat
  table : Std.HashMap Nat (α × Nat) := {}

/-- Mix numbers of 64 bits by multiplication with a prime. -/
def mix (numbers : List Nat) : Nat :=
  (numbers.foldl (fun (h : UInt64) n => (h ^^^ n.toUInt64) * 1099511628211)
    14695981039346656037).toNat

def Shared.find? {α : Type} [DecidableEq α] (s : Shared α) (numbers : List Nat) (key : α) :
    Option Nat :=
  match s.table[mix numbers % s.places]? with
  | some (other, state) => if other = key then some state else none
  | none => none

def Shared.insert {α : Type} (s : Shared α) (numbers : List Nat) (key : α) (state : Nat) :
    Shared α :=
  { s with table := s.table.insert (mix numbers % s.places) (key, state) }

/-! Sets of characters in a machine that reads from the front. -/

/-- A state in the making: its steps, the last one first, and the bytes of a step whose target is
still unknown. -/
structure Draft where
  steps : List Step := []
  pending : Option ByteRange := none

/-- The pending step leads to `target`. -/
def Draft.settle (target : Nat) (d : Draft) : Draft :=
  match d.pending with
  | some bytes => ⟨⟨bytes, target⟩ :: d.steps, none⟩
  | none => d

abbrev Forward := Room × Shared (List Step)

/-- The state with the steps of a draft: one of the table, or a new one. -/
def finish? (d : Draft) (m : Forward) : Option (Nat × Forward) :=
  let steps := d.steps.reverse
  let numbers := steps.flatMap fun s => [s.bytes.first.toNat, s.bytes.last.toNat, s.target]
  match m.2.find? numbers steps with
  | some state => some (state, m)
  | none =>
    match m.1.add? (steps.length * stepBytes) with
    | some room => some (m.1.states, room, m.2.insert numbers steps m.1.states)
    | none => none

/-- Finish all drafts but the first `keep`. The drafts stand with the last one first. -/
def finishBehind? (keep : Nat) (target : Nat) (m : Forward) :
    List Draft → Option (List Draft × Forward)
  | [] => some ([], m)
  | d :: ds =>
    if keep < ds.length then
      match finish? (d.settle target) m with
      | some (state, m) => finishBehind? keep state m ds
      | none => none
    else some (d.settle target :: ds, m)

/-- How many of the first bytes of a sequence the drafts, the first one first, are about. -/
def agreement : ByteSequence → List Draft → Nat
  | b :: bs, d :: ds => if d.pending = some b then agreement bs ds + 1 else 0
  | _, _ => 0

/-- Add a sequence of bytes that leads to `target`. -/
def addSequence? (target : Nat) (s : List Draft × Forward) (sequence : ByteSequence) :
    Option (List Draft × Forward) := do
  let shared := agreement sequence s.1.reverse
  let (drafts, m) ← finishBehind? shared target s.2 s.1
  match sequence.drop shared, drafts with
  | b :: bs, d :: ds =>
    return ((bs.map fun b => ⟨[], some b⟩).reverse ++ { d with pending := some b } :: ds, m)
  | _, drafts => return (drafts, m)

/-- A set in a machine that reads from the front. -/
def forwardSet? (set : Ranges) (r : Room) : Option Room := do
  let target := r.states
  let r ← r.add? 0
  let start : List Draft × Forward := ([{}], r, { places := 10000 })
  let (drafts, m) ← (ByteSequence.ofSet set).foldlM (addSequence? target) start
  let (drafts, m) ← finishBehind? 0 target m drafts
  let (_, m) ← finish? (drafts.headD {}) m
  return m.1

/-! Sets of characters in a machine that reads from the back. -/

/-- Add the steps of a sequence, the first byte last. -/
def backwardSteps? (target : Nat) (m : Room × Shared Step) :
    ByteSequence → Option (Room × Shared Step)
  | [] => some m
  | b :: bs =>
    let step : Step := ⟨b, target⟩
    let numbers := [target, b.first.toNat, b.last.toNat]
    match m.2.find? numbers step with
    | some state => backwardSteps? state m bs
    | none =>
      match m.1.add? 0 with
      | some room =>
        backwardSteps? m.1.states (room, m.2.insert numbers step m.1.states) bs
      | none => none

/-- A set in a machine that reads from the back. -/
def backwardSet? (set : Ranges) (r : Room) : Option Room := do
  let r ← r.add? 0
  let target := r.states
  let r ← r.add? 0
  let sequences := ByteSequence.ofSet set
  let (r, _) ← sequences.foldlM (backwardSteps? target) (r, { places := 1000 })
  r.extend? (sequences.length * wayBytes)

/-- A set of characters. ASCII characters take a single step. -/
def set? (back : Bool) (set : Ranges) (r : Room) : Option Room :=
  if set.all fun range => range.2 ≤ 0x7F then do (← r.add? 0).add? (set.length * stepBytes)
  else if back then backwardSet? set r
  else forwardSet? set r

/-! Choices between texts. -/

/-- Texts that begin with the same byte: the rest of each, the last one first. -/
structure Family where
  byte : UInt8
  rests : List (List UInt8)

/-- Put a text into its family. -/
def Family.insert (byte : UInt8) (rest : List UInt8) : List Family → List Family
  | [] => [⟨byte, [rest]⟩]
  | f :: fs =>
    if f.byte = byte then ⟨byte, rest :: f.rests⟩ :: fs else f :: insert byte rest fs

/-- Texts by their first bytes. An empty text is a match; as it is preferred to the texts behind it,
those stand in a group of their own. The groups stand with the last one first. -/
structure Grouped where
  ends : Nat := 0
  last : List Family := []
  before : List (List Family) := []

/-- An empty text in front of all others counts once. -/
def Grouped.enter (g : Grouped) : List UInt8 → Grouped
  | [] =>
    if 0 < g.ends && g.last.isEmpty && g.before.isEmpty then g
    else ⟨g.ends + 1, [], if g.last.isEmpty then g.before else g.last :: g.before⟩
  | b :: bs => { g with last := Family.insert b bs g.last }

def Grouped.groups (g : Grouped) : List (List Family) :=
  if g.last.isEmpty then g.before else g.last :: g.before

/-- The states that tell texts apart, none of them longer than `depth`. -/
def tellApart? : Nat → List (List UInt8) → Room → Option Room
  | 0, _, r => some r
  | depth + 1, texts, r => do
    let grouped := texts.foldl Grouped.enter {}
    let r ← r.addFork? (grouped.groups.length + grouped.ends)
    let r ← grouped.groups.foldlM (fun r group => match group with
      | [_] => r.add? 0
      | group => r.add? (group.length * stepBytes)) r
    grouped.groups.flatten.foldlM (fun r family =>
      if family.rests.all List.isEmpty then some r
      else tellApart? depth family.rests.reverse r) r

/-- The bytes of a text in the order in which a machine takes them. -/
def bytesOf (back : Bool) (text : List Char) : List UInt8 :=
  let bytes := text.flatMap String.utf8EncodeChar
  if back then bytes.reverse else bytes

/-- A choice between texts. -/
def texts? (back : Bool) (texts : List (List Char)) (r : Room) : Option Room := do
  let texts := texts.map (bytesOf back)
  tellApart? (texts.foldl (fun n text => max n text.length) 0) texts (← r.add? 0)

end Room

namespace Pattern

def text? : Pattern → Option (List Char)
  | .literal text => some text
  | _ => none

mutual

/-- Add the states of a pattern. -/
def room? (back : Bool) : Pattern → Room → Option Room
  | .empty, r => r.add? 0
  | .literal text, r => r.addPlain? (Room.bytesOf back text).length
  | .chars set, r => r.set? back set
  | .look _, r => r.add? 0
  | .capture _ p, r =>
    if back then p.room? back r
    else do (← p.room? back (← r.add? 0)).add? 0
  | .concat ps, r => partsRoom? back ps r
  | .alternation ps, r =>
    match ps.mapM text? with
    | some texts => r.texts? back texts
    | none => branchesRoom? back 0 ps r
  | .repetition least most _ p, r =>
    match least, most with
    | 0, some 1 => do (← p.room? back (← r.addFork? 2)).add? 0
    | 0, none =>
      if p.takesSomething then do p.room? back (← r.addFork? 2)
      else do (← (← (← p.room? back r).addFork? 2).addFork? 2).add? 0
    | least, none => do (← Room.times? (p.room? back) least r).addFork? 2
    | least, some most => do
      let r ← if least = 0 then r.add? 0 else Room.times? (p.room? back) least r
      if least < most then
        Room.times? (fun r => do p.room? back (← r.addFork? 2)) (most - least) (← r.add? 0)
      else return r

/-- Add the states of the parts of a sequence in the order in which a machine takes them. -/
def partsRoom? (back : Bool) : List Pattern → Room → Option Room
  | [], r => some r
  | p :: ps, r => do
    if back then p.room? back (← partsRoom? back ps r)
    else partsRoom? back ps (← p.room? back r)

/-- Add the states of the branches of a choice. The two states where the branches part and meet
come behind the second branch. -/
def branchesRoom? (back : Bool) (branch : Nat) : List Pattern → Room → Option Room
  | [], r => some r
  | p :: ps, r => do
    let r ← (← p.room? back r).extend? Room.wayBytes
    branchesRoom? back (branch + 1) ps
      (← if branch = 1 then do (← r.add? 0).add? 0 else some r)

end

mutual

/-- Whether every match begins, or ends, where the look is satisfied. -/
def isAnchored (look : Look) (back : Bool) : Pattern → Bool
  | .look kind => kind = look
  | .capture _ p => p.isAnchored look back
  | .repetition least _ _ p => 0 < least && p.isAnchored look back
  | .concat ps => partsAnchored look back ps
  | .alternation ps => branchesAnchored look back ps
  | _ => false

/-- In a sequence the parts count up to the first that can take a character. -/
def partsAnchored (look : Look) (back : Bool) : List Pattern → Bool
  | [] => false
  | p :: ps =>
    if back then partsAnchored look back ps || (allTakeNothing ps && p.isAnchored look back)
    else p.isAnchored look back || (p.takesNothing && partsAnchored look back ps)

def branchesAnchored (look : Look) (back : Bool) : List Pattern → Bool
  | [] => true
  | p :: ps => p.isAnchored look back && branchesAnchored look back ps

end

/-- The states of the whole machine of a pattern. In front of a pattern that matches anywhere, some
states pass over what lies before the match. -/
def machine? (back : Bool) (p : Pattern) : Option Room := do
  let anchor := if back then Look.textEnd else .textStart
  let r : Room := {}
  let r ←
    if p.isAnchored anchor back then r.add? 0
    else do (← (← r.addFork? 2).add? 0).add? Room.stepBytes
  (← room? back (.capture 0 p) r).add? 0

/-- So many texts to choose from are looked up without a machine. -/
def manyTexts : Nat := 3000

def isManyTexts : Pattern → Bool
  | .alternation ps => ps.all (fun p => p.text?.isSome) && manyTexts ≤ ps.length
  | _ => false

/-- Whether there is room for the machines of a pattern. -/
def fits (p : Pattern) : Bool :=
  p.isManyTexts || ((p.machine? false).isSome && (p.machine? true).isSome)

end Pattern
end RuleGraph.Regex
