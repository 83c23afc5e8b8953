import RuleGraph.Path.Normal
import RuleGraph.Rules.ParseError

/-!
# Where rule texts come from
-/
namespace RuleGraph

/-- A place that rule texts are read from. Paths with one key are one file; `size` bounds the
number of keys under which there is a text. -/
structure Source where
  key : Path → Path
  read : Path → Except ReadFailure String
  size : Nat

namespace Source

/-- The text of the last file whose path leads where the given path leads. -/
def lookup (files : List (Path × String)) (path : Path) : Except ReadFailure String :=
  match files.reverse.find? (fun f => f.1.normalize = path.normalize) with
  | some f => .ok f.2
  | none => .error (.absent path)

/-- Rule files held in memory. A file replaces an earlier one of the same normal path. -/
def ofFiles (files : List (Path × String)) : Source :=
  ⟨Path.normalize, lookup files, files.length⟩

end Source
end RuleGraph
