import RuleGraph.Rules.File

/-!
# Collections of parsed files

Parsed files by path, in path order. Spellings of one path share an entry.
-/
namespace RuleGraph

abbrev ParsedFiles := List (Path × RuleFile)

namespace ParsedFiles

/-- An entry for a path that has one keeps the spelling it was first given. -/
def insert (path : Path) (file : RuleFile) : ParsedFiles → ParsedFiles
  | [] => [(path, file)]
  | (p, f) :: rest =>
    if path.same p then (p, file) :: rest
    else if path.before p then (path, file) :: (p, f) :: rest
    else (p, f) :: insert path file rest

def get? (files : ParsedFiles) (path : Path) : Option RuleFile :=
  match files with
  | [] => none
  | (p, f) :: rest => if path.same p then some f else get? rest path

def values (files : ParsedFiles) : List RuleFile := files.map Prod.snd

end ParsedFiles
end RuleGraph
