import RuleGraph.Node.Params
import RuleGraph.Node.Topic
import RuleGraph.Path.Basic

/-!
# Why rules cannot be added to a graph
-/
namespace RuleGraph

inductive GraphError
  | emptyRuleName
  | duplicateRule (rule : String)
  | unresolvedCall (rule : String)
  | producerInCall (rule : String)
  | cyclicCall (rule : String)
  | unknownProducer (type : String)
  | unknownFilter (type : String)
  | construction (type : String) (cause : NodeError)
  | cyclicDependency (file : Path)
  | missingDependency (file dependency : Path)
  | closedBus (topic : Topic)
  | noThread (topic : Topic) (reason : String)
  /-- This is no error, but a panic: the thread of the topic cannot be named. -/
  | unnamedThread (topic : Topic)
  | inRule (file : Path) (rule : String) (cause : GraphError)
  deriving DecidableEq, Repr

namespace GraphError

def message : GraphError → String
  | .emptyRuleName => "Rule has no name"
  | .duplicateRule rule => s!"Rule `{rule}` is already defined"
  | .unresolvedCall rule =>
    s!"Rule `{rule}` is not defined (rules must be defined or imported before they are called)"
  | .producerInCall rule => s!"Rule `{rule}` contains a producer and cannot be here"
  | .cyclicCall rule => s!"Calling rule `{rule}` here would route messages back into it"
  | .unknownProducer type => s!"Unknown producer type `{type}`"
  | .unknownFilter type => s!"Unknown filter type `{type}`"
  | .construction type cause => s!"Cannot construct `{type}`: {cause.message}"
  | .cyclicDependency file => s!"Cyclic dependency on `{file.text}`"
  | .missingDependency file dependency =>
    s!"`{file.text}` depends on `{dependency.text}`, which was not parsed"
  | .closedBus topic => s!"Internal error: subscribe to {topic.text} after bus shutdown"
  | .noThread topic reason =>
    s!"Internal error: cannot spawn dispatcher for {topic.text}: {reason}"
  | .unnamedThread _ => "thread name may not contain interior null bytes"
  | .inRule file rule cause => s!"In {file.text} rule `{rule}`: {cause.message}"

/-- The error without the rules that it was found in. -/
def root : GraphError → GraphError
  | .inRule _ _ cause => cause.root
  | e => e

/-- A panic stands among the errors, but the caller gets none. -/
def isPanic (e : GraphError) : Bool :=
  match e.root with
  | .unnamedThread _ => true
  | _ => false

/-- The texts of the errors behind this one, from the outside in. -/
def causes : GraphError → List String
  | .inRule _ _ cause => cause.message :: cause.causes
  | .construction _ cause => [cause.message]
  | _ => []

end GraphError
end RuleGraph
