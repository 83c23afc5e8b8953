import RuleGraph.Decimal.Shortest
import RuleGraph.Table
import RuleGraph.Toml.Moment

/-!
# Values of configuration texts

A reader gives the entries of a table in the order of the text. `Value.settle?` puts them in the
order of their names, and makes a moment of each table that begins with the entry `momentKey`.
-/
namespace RuleGraph.Toml

inductive Value
  | string (value : String)
  | integer (value : Int)
  | float (value : Binary64)
  | boolean (value : Bool)
  | moment (value : Moment)
  | array (items : List Value)
  | table (entries : List (String × Value))
  deriving Repr, Inhabited

namespace Value

def string? : Value → Option String
  | .string s => some s
  | _ => none

def array? : Value → Option (List Value)
  | .array vs => some vs
  | _ => none

def table? : Value → Option (List (String × Value))
  | .table entries => some entries
  | _ => none

/-- The name of the entry that a moment has where it stands for a table, and of the first entry of
a table that stands for a moment. -/
def momentKey : String := "$__toml_private_datetime"

mutual

/-- A value as it is used. In a table that stands for a moment the first entry is the text of the
moment, and the others count for nothing. -/
def settle? : Value → Option Value
  | .array items => (settleItems? items).map .array
  | .table [] => some (.table [])
  | .table ((name, v) :: rest) =>
    if name = momentKey then v.string?.bind fun s => (Moment.ofText? s).map .moment
    else do
      let v ← v.settle?
      some (.table (Table.ofList ((name, v) :: (← settleEntries? rest))))
  | v => some v

def settleItems? : List Value → Option (List Value)
  | [] => some []
  | v :: rest => do some ((← v.settle?) :: (← settleItems? rest))

def settleEntries? : List (String × Value) → Option (List (String × Value))
  | [] => some []
  | (name, v) :: rest => do some ((name, ← v.settle?) :: (← settleEntries? rest))

end

/-- The settled entries of a value where a table is called for. A moment stands for a table with one
entry, its text. -/
def entries? : Value → Option (Table Value)
  | .moment m => some [(momentKey, .string m.text)]
  | .table entries => (settleEntries? entries).map Table.ofList
  | _ => none

def isTable (v : Value) : Bool := v.table?.isSome

end Value
end RuleGraph.Toml
