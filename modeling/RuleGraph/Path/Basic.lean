/-!
# File paths

A path keeps the text it was written with. Two paths are the same when their components agree,
so `a//b` and `a/./b` are one path with two spellings.
-/
namespace RuleGraph

structure Path where
  text : String
  deriving DecidableEq, Repr, Inhabited

namespace Path

inductive Component
  | root
  | current
  | parent
  | name (text : String)
  deriving DecidableEq, Repr

/-- The parts of a text between slashes; an empty text has one empty part. -/
def splitSlash : List Char → List (List Char)
  | [] => [[]]
  | c :: cs =>
    if c = '/' then [] :: splitSlash cs
    else match splitSlash cs with
      | [] => [[c]]
      | s :: ss => (c :: s) :: ss

/-- A part after the first: empty parts and single dots count for nothing. -/
def later? (part : List Char) : Option Component :=
  if part = [] || part = ['.'] then none
  else if part = ['.', '.'] then some .parent
  else some (.name (String.ofList part))

/-- The first part says whether the path is absolute; a single dot counts here. -/
def first? (part : List Char) (more : Bool) : Option Component :=
  if part = [] then (if more then some .root else none)
  else if part = ['.'] then some .current
  else later? part

def components (p : Path) : List Component :=
  match splitSlash p.text.toList with
  | [] => []
  | part :: parts => (first? part !parts.isEmpty).toList ++ parts.filterMap later?

/-- Sameness of paths: equal components, whatever the spelling. -/
def same (p q : Path) : Bool := p.components == q.components

def isAbsolute (p : Path) : Bool := p.text.toList.head? == some '/'

/-- Put slashes between parts. -/
def joinSlash : List (List Char) → List Char
  | [] => []
  | [part] => part
  | part :: parts => part ++ '/' :: joinSlash parts

/-- The path without its last component, as it is spelled; the root and the empty path have none. -/
def parent? (p : Path) : Option Path :=
  match splitSlash p.text.toList with
  | [] => none
  | part :: parts =>
    match parts.reverse.dropWhile (fun s => (later? s).isNone) with
    | [] => if part = [] then none else some ⟨""⟩
    | _ :: before =>
      match (before.dropWhile fun s => (later? s).isNone).reverse with
      | [] => some ⟨if part = [] then "/" else String.ofList part⟩
      | kept => some ⟨String.ofList (joinSlash (part :: kept))⟩

/-- The path `q` read from the directory `p`; an absolute `q` stands for itself. -/
def join (p q : Path) : Path :=
  if q.isAbsolute || p.text.isEmpty then q
  else if p.text.toList.getLast? == some '/' then ⟨p.text ++ q.text⟩
  else ⟨p.text ++ "/" ++ q.text⟩

def Component.text : Component → List Char
  | .root => []
  | .current => ['.']
  | .parent => ['.', '.']
  | .name s => s.toList

/-- The shortest spelling of a list of components. -/
def ofComponents (cs : List Component) : Path :=
  match cs with
  | [.root] => ⟨"/"⟩
  | cs => ⟨String.ofList (joinSlash (cs.map Component.text))⟩

def Component.rank : Component → Nat
  | .root => 0
  | .current => 1
  | .parent => 2
  | .name _ => 3

def Component.before : Component → Component → Bool
  | .name s, .name t => s < t
  | c, d => c.rank < d.rank

/-- Paths are ordered component by component, not by their text. -/
def beforeList : List Component → List Component → Bool
  | [], [] => false
  | [], _ :: _ => true
  | _ :: _, [] => false
  | c :: cs, d :: ds => c.before d || (c == d && beforeList cs ds)

def before (p q : Path) : Bool := beforeList p.components q.components

theorem same_refl (p : Path) : p.same p = true := by simp [same]

theorem same_iff {p q : Path} : p.same q = true ↔ p.components = q.components := by simp [same]

theorem splitSlash_ne_nil (cs : List Char) : splitSlash cs ≠ [] := by
  cases cs with
  | nil => simp [splitSlash]
  | cons c cs =>
    simp only [splitSlash]
    split
    · simp
    · split <;> simp

theorem joinSlash_splitSlash (cs : List Char) : joinSlash (splitSlash cs) = cs := by
  induction cs with
  | nil => rfl
  | cons c cs ih =>
    simp only [splitSlash]
    split
    · rename_i h
      subst h
      cases hs : splitSlash cs with
      | nil => exact absurd hs (splitSlash_ne_nil cs)
      | cons s ss => rw [joinSlash, ← hs, ih]; rfl; simp
    · split
      · rename_i h
        exact absurd h (splitSlash_ne_nil cs)
      · rename_i s ss h
        rw [h] at ih
        cases ss with
        | nil => simp_all [joinSlash]
        | cons t ts => simp_all [joinSlash]

end Path
end RuleGraph
