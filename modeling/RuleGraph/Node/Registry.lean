import RuleGraph.Node.Echo
import RuleGraph.Node.TextFilter
import RuleGraph.Node.Timer
import RuleGraph.Text.Quoted

/-!
# Types of nodes

A registry knows, by name, how producers and filters are made from parameters. One name may stand
for a producer and for a filter.
-/
namespace RuleGraph

abbrev ProducerFactory := Params → Except NodeError Producer

abbrev FilterFactory := Params → Except NodeError Filter

structure Registry where
  producers : Table ProducerFactory
  filters : Table FilterFactory

namespace Registry

def empty : Registry := ⟨[], []⟩

def addProducer (r : Registry) (name : String) (factory : ProducerFactory) : Registry :=
  { r with producers := Table.insert name factory r.producers }

def addFilter (r : Registry) (name : String) (factory : FilterFactory) : Registry :=
  { r with filters := Table.insert name factory r.filters }

def builtins : Registry :=
  ((empty.addProducer Timer.typeName Timer.make).addFilter Echo.typeName Echo.make).addFilter
    TextFilter.typeName TextFilter.make

def producer? (r : Registry) (name : String) : Option ProducerFactory := Table.get? r.producers name

def filter? (r : Registry) (name : String) : Option FilterFactory := Table.get? r.filters name

inductive Kind
  | producer
  | filter
  deriving DecidableEq, Repr

/-- What a name stands for; the producer counts where it stands for both. -/
def kind? (r : Registry) (name : String) : Option Kind :=
  if (r.producer? name).isSome then some .producer
  else if (r.filter? name).isSome then some .filter
  else none

def describe (r : Registry) : String :=
  "NodeRegistry \x7b producers: " ++ Text.quotedList r.producers.keys ++ ", filters: " ++
    Text.quotedList r.filters.keys ++ " \x7d"

end Registry
end RuleGraph
