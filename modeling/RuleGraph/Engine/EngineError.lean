import RuleGraph.Config
import RuleGraph.Graph.GraphError

/-!
# Errors of the engine

An error comes from reading rule files, from compiling them or from the configuration, and may be
put into a context, several times over.
-/
namespace RuleGraph

inductive EngineError
  | parse (cause : ParseError)
  | graph (cause : GraphError)
  | config (fault : ConfigFault)
  | context (text : String) (cause : EngineError)
  deriving DecidableEq, Repr

namespace EngineError

def message : EngineError → String
  | .parse e => s!"Parse error: {e.message}"
  | .graph e => s!"Pipeline error: {e.message}"
  | .config fault => s!"Configuration error: {fault.message}"
  | .context text cause => s!"{text}: {cause.message}"

/-- The error without its contexts. -/
def innermost : EngineError → EngineError
  | .context _ cause => cause.innermost
  | e => e

/-- The texts of the errors behind this one, from the outside in. -/
def causes : EngineError → List String
  | .parse e => e.message :: e.causes
  | .graph e => e.message :: e.causes
  | .config _ => []
  | .context _ cause => cause.message :: cause.causes

/-- Put an error into contexts, the first of them innermost. -/
def inContexts (e : EngineError) (contexts : List String) : EngineError :=
  contexts.foldl (fun e text => .context text e) e

end EngineError
end RuleGraph
