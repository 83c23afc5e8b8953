import RuleGraph.Rules.SyntaxError
import RuleGraph.Path.Basic
import RuleGraph.Text.Blank

/-!
# Import directives

A line `#import "path"`, with blanks allowed around its parts, names a rule file that its own file
builds on. The rest of the language takes such a line for a comment.
-/
namespace RuleGraph.Import

def directive : List Char := "#import".toList

/-- The path inside the quotes of an import target; it is not empty and holds no quote. -/
def target? (written : List Char) : Option (List Char) :=
  match written with
  | '"' :: inner =>
    match inner.reverse with
    | '"' :: path => if path.isEmpty || path.contains '"' then none else some path.reverse
    | _ => none
  | _ => none

/-- What follows the directive on a line that is an import line, with the size in bytes of what
stands before. The word must end there: `#important` begins an ordinary comment. -/
def argument? (line : List Char) : Option (Nat × List Char) :=
  let trimmed := Text.trimStart line
  match Text.after? directive trimmed with
  | none => none
  | some rest =>
    match rest with
    | [] => some (Text.byteCount line - Text.byteCount trimmed + directive.length, rest)
    | c :: _ =>
      if Text.isBlank c then
        some (Text.byteCount line - Text.byteCount trimmed + directive.length, rest)
      else none

/-- The import targets of numbered lines, in order. -/
def scanLines : Nat → List (List Char) → Except SyntaxError (List String)
  | _, [] => .ok []
  | number, line :: rest =>
    match argument? line with
    | none => scanLines (number + 1) rest
    | some (size, argument) =>
      let written := Text.trim argument
      match target? written with
      | none =>
        .error ⟨⟨number, size + 1⟩, .importTarget (String.ofList written), [.quotedPath]⟩
      | some path =>
        match scanLines (number + 1) rest with
        | .error e => .error e
        | .ok paths => .ok (String.ofList path :: paths)

/-- The import targets of a rule text, as they are written. -/
def scan (source : String) : Except SyntaxError (List String) :=
  scanLines 1 (Text.lines source.toList)

/-- The file that an import names: a relative target is read from the importing file's
directory. -/
def resolve (importer : Path) (target : String) : Path :=
  let target : Path := ⟨target⟩
  if target.isAbsolute then target
  else match importer.parent? with
    | some directory => if directory.text.isEmpty then target else directory.join target
    | none => target

end RuleGraph.Import
