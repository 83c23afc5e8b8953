import RuleGraph.Rules.Position
import RuleGraph.Decimal.Shortest

/-!
# Tokens of the rule language
-/
namespace RuleGraph

namespace Token

inductive Kind
  /-- The arrow between a rule's name and its body, also written `is`. -/
  | arrow
  | less
  /-- The word `from`, which opens a producer that is not closed. -/
  | fromWord
  | name (text : String)
  | text (value : String)
  | number (value : Binary64)
  | leftBracket
  | rightBracket
  | pipe
  | comma
  | colon
  | semicolon
  | leftParen
  | rightParen
  | equals
  | greater
  | bang
  | atSign
  | endOfFile
  deriving DecidableEq, Repr

/-- How a message speaks of a token. -/
def Kind.describe : Kind → String
  | .arrow => "`=>`"
  | .less => "`<`"
  | .fromWord => "`from`"
  | .name s => s!"identifier `{s}`"
  | .text s => s!"string \"{s}\""
  | .number x => s!"number {x.text}"
  | .leftBracket => "`[`"
  | .rightBracket => "`]`"
  | .pipe => "`|`"
  | .comma => "`,`"
  | .colon => "`:`"
  | .semicolon => "`;`"
  | .leftParen => "`(`"
  | .rightParen => "`)`"
  | .equals => "`=`"
  | .greater => "`>`"
  | .bang => "`!`"
  | .atSign => "`@`"
  | .endOfFile => "end of file"

end Token

structure Token where
  kind : Token.Kind
  pos : Position
  deriving DecidableEq, Repr

end RuleGraph
