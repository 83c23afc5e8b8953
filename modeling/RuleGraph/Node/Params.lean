import RuleGraph.Node.Duration
import RuleGraph.Table
import RuleGraph.Text.Number

/-!
# Parameters of nodes

A node is made from named texts. Of several values given to one name the last counts.
-/
namespace RuleGraph

/-- Why a node cannot be made, or why it fails on a message. -/
inductive NodeError
  | missingParam (name : String)
  | invalidParam (name value reason : String)
  | runtime (text : String)
  | io (cause : String)
  deriving DecidableEq, Repr

def NodeError.message : NodeError → String
  | .missingParam name => s!"missing required parameter `{name}`"
  | .invalidParam name value reason => s!"invalid value `{value}` for parameter `{name}`: {reason}"
  | .runtime text => text
  | .io cause => s!"IO error: {cause}"

structure Params where
  values : Table String
  deriving DecidableEq, Repr

namespace Params

def empty : Params := ⟨[]⟩

def insert (p : Params) (key value : String) : Params := ⟨Table.insert key value p.values⟩

def ofList (entries : List (String × String)) : Params :=
  entries.foldl (fun p e => p.insert e.1 e.2) empty

def get? (p : Params) (key : String) : Option String := Table.get? p.values key

def getD (p : Params) (key default : String) : String := (p.get? key).getD default

def require (p : Params) (key : String) : Except NodeError String :=
  match p.get? key with
  | some value => .ok value
  | none => .error (.missingParam key)

/-- The value of an optional parameter as a reader takes it, without blanks around it. -/
def read? {α : Type} (p : Params) (key : String)
    (reader : List Char → Except NumberFault α) : Except NodeError (Option α) :=
  match p.get? key with
  | none => .ok none
  | some raw =>
    match reader (Text.trim raw.toList) with
    | .ok value => .ok (some value)
    | .error fault => .error (.invalidParam key raw fault.message)

def duration? (p : Params) (key : String) : Except NodeError (Option Duration) :=
  match p.get? key with
  | none => .ok none
  | some raw =>
    match Duration.parse raw with
    | .ok d => .ok (some d)
    | .error fault => .error (.invalidParam key raw fault.message)

theorem get?_insert (p : Params) (key other value : String) :
    (p.insert key value).get? other = if other = key then some value else p.get? other :=
  Table.get?_insert p.values key other value

end Params
end RuleGraph
