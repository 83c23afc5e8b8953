import RuleGraph.Rules.Position
import RuleGraph.Decimal.Shortest
import RuleGraph.Path.Basic

/-!
# Rule files

A rule names a chain of links. The chain may begin with a producer of messages; every further link
is a filter or a call of another rule.
-/
namespace RuleGraph

inductive ParamValue
  | text (value : String)
  | number (value : Binary64)
  deriving DecidableEq, Repr

/-- The text that a node is given for a parameter. A whole number below 10^15 is written without
sign of zero. -/
def ParamValue.render : ParamValue → String
  | .text s => s
  | .number x =>
    match x.toInt? with
    | some n => if n.natAbs < Nat.pow 10 15 then toString n else x.text
    | none => x.text

structure Param where
  name : String
  value : ParamValue
  deriving DecidableEq, Repr

/-- A link of a chain: a filter, whose verdict may be negated, or the call of a rule. -/
inductive Link
  | filter (name : String) (params : List Param) (negated : Bool)
  | call (rule : String)
  deriving DecidableEq, Repr

structure ProducerDecl where
  name : String
  params : List Param
  deriving DecidableEq, Repr

/-- A rule is fed by a producer, or is a fragment that other rules call. A fragment has at least
one link. -/
inductive RuleBody
  | produced (producer : ProducerDecl) (chain : List Link)
  | fragment (first : Link) (rest : List Link)
  deriving DecidableEq, Repr

structure Rule where
  name : String
  pos : Position
  body : RuleBody
  deriving DecidableEq, Repr

def RuleBody.producer? : RuleBody → Option ProducerDecl
  | .produced p _ => some p
  | .fragment .. => none

/-- The links behind the producer, if there is one. -/
def RuleBody.chain : RuleBody → List Link
  | .produced _ chain => chain
  | .fragment first rest => first :: rest

/-- A parsed rule file. Its imports are paths read from the file's own directory. -/
structure RuleFile where
  path : Path
  imports : List Path
  rules : List Rule
  deriving DecidableEq, Repr

end RuleGraph
