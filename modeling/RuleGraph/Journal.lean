import RuleGraph.Node.Params
import RuleGraph.Node.Topic
import RuleGraph.Path.Basic

/-!
# The journal

What the engine tells about its work: each event has a level and a line of text.
-/
namespace RuleGraph

inductive Level
  | trace
  | debug
  | info
  | warn
  | error
  deriving DecidableEq, Repr

def Level.name : Level → String
  | .trace => "TRACE"
  | .debug => "DEBUG"
  | .info => "INFO"
  | .warn => "WARN"
  | .error => "ERROR"

inductive Event
  | parsed (file : Path) (rules imports : Nat)
  | compiling (file : Path) (rules dependencies : Nat)
  | compiled (rules roots files : Nat)
  /-- A node of the given type was made from the given parameters. -/
  | constructed (type : String) (params : Params)
  | echoed (rule text : String)
  | filterFailed (topic : Topic) (rule : String) (error : NodeError)
  | handlerPanicked (topic : Topic)
  | producerStarted (topic : Topic) (rule : String)
  | producerStopped (topic : Topic) (rule : String)
  | producerFailed (topic : Topic) (rule : String) (error : NodeError)
  | producerPanicked (topic : Topic)
  | startedProducers (count : Nat)
  deriving DecidableEq, Repr

namespace Event

def level : Event → Level
  | .parsed .. => .debug
  | .constructed .. => .trace
  | .filterFailed .. | .handlerPanicked _ | .producerFailed .. | .producerPanicked _ => .error
  | _ => .info

def text : Event → String
  | .parsed file rules imports => s!"Parsed {file.text} ({rules} rules, {imports} imports)"
  | .compiling file rules deps => s!"Compiling {file.text} ({rules} rules, {deps} dependencies)"
  | .compiled rules roots files =>
    s!"Compiled {rules} rules ({roots} with producers) from {files} files"
  | .constructed type _ => s!"Constructed {type}"
  | .echoed rule text => s!"[{rule}] {text}"
  | .filterFailed topic rule e =>
    s!"Filter {topic.text} in rule `{rule}` failed, message dropped: {e.message}"
  | .handlerPanicked topic => s!"Bus: handler on {topic.text} panicked, message dropped for it"
  | .producerStarted topic rule => s!"Producer {topic.text} of rule `{rule}` started"
  | .producerStopped topic rule => s!"Producer {topic.text} of rule `{rule}` stopped"
  | .producerFailed topic rule e => s!"Producer {topic.text} of rule `{rule}` failed: {e.message}"
  | .producerPanicked topic => s!"Producer {topic.text} panicked"
  | .startedProducers count => s!"Started {count} producers"

def line (e : Event) : String := s!"{e.level.name} {e.text}"

end Event
end RuleGraph
