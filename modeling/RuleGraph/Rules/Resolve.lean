import RuleGraph.Journal
import RuleGraph.Rules.ParsedFiles
import RuleGraph.Rules.Parser
import RuleGraph.Rules.Source

/-!
# Resolving imports

`Source.resolve` reads the entry files and everything that they import, depth first. A file is
marked while its imports are visited, so that one met again meanwhile closes an import cycle; a
file that is done is not read again.
-/
namespace RuleGraph

inductive Mark
  | inProgress
  | done
  deriving DecidableEq, Repr

/-- How far a resolution has come. -/
structure Resolution where
  marks : List (Path × Mark)
  files : ParsedFiles
  journal : List Event

namespace Resolution

def empty : Resolution := ⟨[], [], []⟩

def mark? (r : Resolution) (path : Path) : Option Mark :=
  (r.marks.find? fun m => m.1 = path).map Prod.snd

def setMark (r : Resolution) (path : Path) (mark : Mark) : Resolution :=
  { r with marks := (path, mark) :: r.marks }

def note (r : Resolution) (e : Event) : Resolution := { r with journal := r.journal ++ [e] }

def finish (r : Resolution) (path : Path) (file : RuleFile) : Resolution :=
  { r.setMark path .done with files := r.files.insert path file }

end Resolution

namespace Source

/-- The file at a key, with the keys of its imports. -/
def load (source : Source) (importer : Option Path) (path : Path) : Except ParseError RuleFile :=
  match source.read path with
  | .error cause =>
    match importer with
    | some file => .error (.missingImport file path cause)
    | none => .error (.unreadable path cause)
  | .ok text =>
    match RuleFile.parse path text with
    | .error e => .error (.badSyntax path e)
    | .ok file => .ok { file with imports := file.imports.map source.key }

/-- Visit keys one after the other, up to the first error. -/
def visitEach (visit : Path → Resolution → Except ParseError Unit × Resolution) :
    List Path → Resolution → Except ParseError Unit × Resolution
  | [], r => (.ok (), r)
  | path :: paths, r =>
    match visit path r with
    | (.error e, r) => (.error e, r)
    | (.ok (), r) => visitEach visit paths r

/-- Read the file at a key and what it imports. The first argument bounds the length of a chain of
imports; files on a chain are different, so the size of the source bounds it too. -/
def visit (source : Source) :
    Nat → Option Path → Path → Resolution → Except ParseError Unit × Resolution
  | 0, _, path, r => (.error (.cyclicDependency path), r)
  | fuel + 1, importer, path, r =>
    match r.mark? path with
    | some .inProgress => (.error (.cyclicDependency path), r)
    | some .done => (.ok (), r)
    | none =>
      match source.load importer path with
      | .error e => (.error e, r)
      | .ok file =>
        let r := (r.setMark path .inProgress).note
          (.parsed path file.rules.length file.imports.length)
        match visitEach (visit source fuel (some path)) file.imports r with
        | (.error e, r) => (.error e, r)
        | (.ok (), r) => (.ok (), r.finish path file)

/-- Resolve the entry files; gives what was found up to an error, too. -/
def resolution (source : Source) (entries : List Path) : Except ParseError Unit × Resolution :=
  visitEach (source.visit (source.size + 1) none) (entries.map source.key) .empty

/-- The parsed files that the entries reach. -/
def resolve (source : Source) (entries : List Path) : Except ParseError ParsedFiles :=
  match source.resolution entries with
  | (.ok (), r) => .ok r.files
  | (.error e, _) => .error e

end Source
end RuleGraph
