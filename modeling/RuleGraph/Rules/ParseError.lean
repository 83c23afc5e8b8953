import RuleGraph.Rules.SyntaxError
import RuleGraph.Path.Basic

/-!
# Why rule files cannot be read
-/
namespace RuleGraph

/-- Why a place yields no text. -/
inductive ReadFailure
  /-- A collection of texts has none under the path. -/
  | absent (path : Path)
  | notFound
  | notDirectory
  | isDirectory
  | tooManyLinks
  | nameTooLong
  | nulInPath
  | notUtf8
  | other (text : String)
  deriving DecidableEq, Repr

def ReadFailure.message : ReadFailure → String
  | .absent path => s!"no such rule file: {path.text}"
  | .notFound => "No such file or directory (os error 2)"
  | .notDirectory => "Not a directory (os error 20)"
  | .isDirectory => "Is a directory (os error 21)"
  | .tooManyLinks => "Too many levels of symbolic links (os error 40)"
  | .nameTooLong => "File name too long (os error 36)"
  | .nulInPath => "file name contained an unexpected NUL byte"
  | .notUtf8 => "stream did not contain valid UTF-8"
  | .other text => text

inductive ParseError
  | badSyntax (file : Path) (error : SyntaxError)
  | cyclicDependency (file : Path)
  | missingImport (file target : Path) (cause : ReadFailure)
  | unreadable (file : Path) (cause : ReadFailure)
  deriving DecidableEq, Repr

def ParseError.message : ParseError → String
  | .badSyntax file e => s!"syntax error in {file.text}: {e.message}"
  | .cyclicDependency file => s!"cyclic dependency on `{file.text}`"
  | .missingImport file target cause =>
    s!"`{file.text}` imports `{target.text}`, which cannot be read: {cause.message}"
  | .unreadable file cause => s!"cannot read rule file `{file.text}`: {cause.message}"

/-- The texts of the errors behind this one, from the outside in. -/
def ParseError.causes : ParseError → List String
  | .badSyntax _ e => [e.message]
  | .cyclicDependency _ => []
  | .missingImport _ _ cause => [cause.message]
  | .unreadable _ cause => [cause.message]

end RuleGraph
