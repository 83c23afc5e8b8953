import RuleGraph.Path.Basic

/-!
# Normal forms of paths

`normalize` drops single dots and lets a double dot cancel the name before it. `walk` says where a
path leads from a directory, and is what normal forms have to keep.
-/
namespace RuleGraph.Path

/-- One component more on a normal form, whose components stand last first. -/
def Component.push : List Component → Component → List Component
  | done, .current => done
  | .name _ :: done, .parent => done
  | done, .parent => if .root ∈ done then done else .parent :: done
  | done, c => c :: done

def normalComponents (cs : List Component) : List Component :=
  (cs.foldl Component.push []).reverse

/-- The lexical normal form of a path. -/
def normalize (p : Path) : Path := ofComponents (normalComponents p.components)

/-- A directory, as the names that lead to it from the root, after one more component. -/
def step (directory : List String) : Component → List String
  | .root => []
  | .current => directory
  | .parent => directory.dropLast
  | .name s => directory ++ [s]

/-- Where the path leads from a directory: a name descends, a double dot ascends, and the root
has no directory above it. -/
def walk (directory : List String) (p : Path) : List String :=
  p.components.foldl step directory

/-- A list of components in normal form: no single dot, the root only in front, and double dots
only at the front of a relative path. -/
inductive IsNormal : List Component → Prop
  | absolute {names : List String} : IsNormal (.root :: names.map .name)
  | relative {ups : Nat} {names : List String} :
      IsNormal (List.replicate ups .parent ++ names.map .name)

theorem normalComponents_append (cs : List Component) (c : Component) :
    normalComponents (cs ++ [c]) =
      (Component.push (normalComponents cs).reverse c).reverse := by
  simp [normalComponents, List.foldl_append]

end RuleGraph.Path
