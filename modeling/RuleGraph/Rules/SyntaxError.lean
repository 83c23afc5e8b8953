import RuleGraph.Rules.Token

/-!
# Syntax errors

What is wrong at a position of a rule text, and what could have stood there instead.
-/
namespace RuleGraph

/-- Something that could have stood where an error was found. -/
inductive Expected
  | ruleName
  | producerName
  | filter
  | filterName
  | parameterName
  | string
  | number
  | quotedPath
  | mark (kind : Token.Kind)
  deriving DecidableEq, Repr

def Expected.label : Expected → String
  | .ruleName => "rule name"
  | .producerName => "producer name"
  | .filter => "filter"
  | .filterName => "filter name"
  | .parameterName => "parameter name"
  | .string => "string"
  | .number => "number"
  | .quotedPath => "quoted file path"
  | .mark kind => kind.describe

inductive SyntaxFault
  | unexpectedCharacter (found : Char)
  | unterminatedString
  | invalidNumber (text : String)
  | unexpectedToken (found : Token.Kind)
  | importTarget (written : String)
  deriving DecidableEq, Repr

def SyntaxFault.message : SyntaxFault → String
  | .unexpectedCharacter c => s!"unexpected character `{c}`"
  | .unterminatedString => "unterminated string literal"
  | .invalidNumber text => s!"invalid number `{text}`"
  | .unexpectedToken kind => s!"unexpected {kind.describe}"
  | .importTarget written => s!"unexpected import target `{written}`"

structure SyntaxError where
  pos : Position
  fault : SyntaxFault
  expected : List Expected
  deriving DecidableEq, Repr

def SyntaxError.message (e : SyntaxError) : String :=
  let labels := String.intercalate ", " (e.expected.map Expected.label)
  s!"{e.pos.text}: {e.fault.message}" ++
    (if e.expected.isEmpty then "" else s!" (expected one of: {labels})")

end RuleGraph
