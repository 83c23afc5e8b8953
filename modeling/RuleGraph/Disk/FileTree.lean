import RuleGraph.Rules.Source

/-!
# Trees of files

A snapshot of files, directories and symbolic links, with a current directory. Paths are followed
name by name: a double dot leaves the directory that was come to, whatever links led there, and a
path may pass 40 links at most.
-/
namespace RuleGraph

inductive Entry
  | directory
  | file (text : String)
  | link (target : Path)
  deriving DecidableEq, Repr

/-- Entries stand under the names that lead to them from the root. -/
structure FileTree where
  entries : List (List String × Entry)
  current : List String
  deriving Repr

/-- A step of a walk along a path. -/
inductive Leg
  | stay
  | up
  | down (name : String)
  deriving DecidableEq, Repr

namespace Path

def leg (part : List Char) : Leg :=
  if part = [] || part = ['.'] then .stay
  else if part = ['.', '.'] then .up
  else .down (String.ofList part)

/-- A slash at the end asks for a directory, as a single dot does. -/
def legs (p : Path) : List Leg := (splitSlash p.text.toList).map leg

def ofLocation (names : List String) : Path := ⟨"/" ++ String.intercalate "/" names⟩

end Path

namespace FileTree

/-- The places on the way to a place, the root and the place itself included. -/
def placesTo (place : List String) : List (List String) :=
  (List.range (place.length + 1)).map fun n => place.take n

/-- A tree with nothing but the directories that lead to its current one. -/
def ofCurrent (current : List String) : FileTree :=
  ⟨(placesTo current).map fun names => (names, .directory), current⟩

/-- What stands at a place; the last entry written there counts. -/
def find? (tree : FileTree) (place : List String) : Option Entry :=
  if place = [] then some .directory
  else (tree.entries.reverse.find? fun e => e.1 = place).map Prod.snd

def insert (tree : FileTree) (place : List String) (entry : Entry) : FileTree :=
  { tree with entries := tree.entries ++ [(place, entry)] }

/-- Make the directories that lead to a place, where there are none. -/
def makeDirectories (tree : FileTree) (place : List String) : FileTree :=
  (placesTo place).foldl (fun t p => if (t.find? p).isSome then t else t.insert p .directory) tree

/-- Put an entry at a path read from the current directory. -/
def put (tree : FileTree) (path : Path) (entry : Entry) : FileTree :=
  let place := path.walk tree.current
  (tree.makeDirectories place.dropLast).insert place entry

def addDirectory (tree : FileTree) (path : Path) : FileTree :=
  tree.makeDirectories (path.walk tree.current)

def longestName : Nat := 255

def longestPath : Nat := 4095

def mostLinks : Nat := 40

/-- The place where a walk over a path begins. -/
def origin (place : List String) (p : Path) : List String := if p.isAbsolute then [] else place

/-- Walk on from a place, passing so many links at most. -/
def follow (tree : FileTree) (links : Nat) (place : List String) (legs : List Leg) :
    Except ReadFailure (List String) :=
  match legs with
  | [] => .ok place
  | leg :: rest =>
    if tree.find? place ≠ some .directory then .error .notDirectory
    else match leg with
      | .stay => follow tree links place rest
      | .up => follow tree links place.dropLast rest
      | .down name =>
        if longestName < name.utf8ByteSize then .error .nameTooLong
        else
          let next := place ++ [name]
          match tree.find? next, links with
          | none, _ => .error .notFound
          | some (.link _), 0 => .error .tooManyLinks
          | some (.link target), links + 1 =>
            follow tree links (origin place target) (target.legs ++ rest)
          | some _, links => follow tree links next rest
termination_by (links, legs.length)

/-- The place that a path leads to. -/
def locate (tree : FileTree) (p : Path) : Except ReadFailure (List String) :=
  if p.text.isEmpty then .error .notFound
  else if p.text.toList.contains (Char.ofNat 0) then .error .nulInPath
  else tree.follow mostLinks (origin tree.current p) p.legs

/-- The text of the file that a path leads to. Unlike a place, a file is not found by a path that is
too long. -/
def read (tree : FileTree) (p : Path) : Except ReadFailure String :=
  if longestPath < p.text.utf8ByteSize && !p.text.toList.contains (Char.ofNat 0) then
    .error .nameTooLong
  else match tree.locate p with
    | .error e => .error e
    | .ok place =>
      match tree.find? place with
      | some (.file text) => .ok text
      | some .directory => .error .isDirectory
      | _ => .error .notFound

/-- The key of a path: the place it leads to, or else its normal form. -/
def key (tree : FileTree) (p : Path) : Path :=
  match tree.locate p with
  | .ok place => .ofLocation place
  | .error _ => p.normalize

def toSource (tree : FileTree) : Source :=
  ⟨tree.key, tree.read, (mostLinks + 1) * (tree.entries.length + 1)⟩

end FileTree
end RuleGraph
