import RuleGraph.Toml.Value

/-!
# Tables built from statements

A configuration text is a list of statements: headers, which open a table or append one to an
array of tables, and entries of the table that is open. `ofStatements?` builds the table that the
statements describe, and fails where one of them defines again what is there. The entries of a
table stand in the order in which their names came up.
-/
namespace RuleGraph.Toml

/-- Names that lead to a table, and the name of an entry in it. -/
structure KeyPath where
  parents : List String
  last : String
  deriving DecidableEq, Repr

def KeyPath.names (p : KeyPath) : List String := p.parents ++ [p.last]

inductive Statement
  | table (path : KeyPath)
  | tables (path : KeyPath)
  | entry (path : KeyPath) (value : Value)
  deriving Repr

/-- How a table came about: by its own header, on the way of a header to another table, or on the
way of a dotted key. -/
inductive Form
  | explicit
  | implied
  | dotted
  deriving DecidableEq, Repr

/-- What a name stands for while a text is read. An array of tables is never empty; its last table
is the one that further statements reach. -/
inductive Item
  | value (value : Value)
  | table (form : Form) (members : List (String × Item))
  | tables (front : List (List (String × Item))) (last : List (String × Item))
  deriving Repr

abbrev Members := List (String × Item)

namespace Members

def get? (members : Members) (name : String) : Option Item := members.lookup name

/-- Let a name stand for an item. A new name comes last. -/
def put (name : String) (item : Item) : Members → Members
  | [] => [(name, item)]
  | e :: rest => if e.1 = name then (name, item) :: rest else e :: put name item rest

def drop (members : Members) (name : String) : Members := members.filter fun e => e.1 ≠ name

end Members

/-- Rewrite the table that the names of a header lead to. A name that is not there yet gets an
implied table. -/
def alter (f : Members → Option Members) : List String → Members → Option Members
  | [], members => f members
  | name :: path, members =>
    let put (item : Item) : Members := Members.put name item members
    match members.get? name with
    | none => (alter f path []).map fun inner => put (.table .implied inner)
    | some (.table form inner) => (alter f path inner).map fun inner => put (.table form inner)
    | some (.tables front last) => (alter f path last).map fun last => put (.tables front last)
    | some (.value _) => none

/-- Give a table its header. Only an implied table may still get one, and becomes the last entry. -/
def openTable (name : String) (members : Members) : Option Members :=
  match members.get? name with
  | none => some (Members.put name (.table .explicit []) members)
  | some (.table .implied inner) =>
    some (Members.put name (.table .explicit inner) (members.drop name))
  | some _ => none

def appendTable (name : String) (members : Members) : Option Members :=
  match members.get? name with
  | none => some (Members.put name (.tables [] []) members)
  | some (.tables front last) => some (Members.put name (.tables (front ++ [last]) []) members)
  | some _ => none

/-- Set a value at a dotted key. The key may pass through tables without a header of their own,
and the table that gets the entry must be made by dotted keys alone. -/
def assign (name : String) (value : Value) : List String → Members → Option Members
  | [], members =>
    if (members.get? name).isSome then none
    else some (Members.put name (.value value) members)
  | part :: path, members =>
    let put (item : Item) : Members := Members.put part item members
    match members.get? part with
    | none => (assign name value path []).map fun inner => put (.table .dotted inner)
    | some (.table .dotted inner) =>
      (assign name value path inner).map fun inner => put (.table .dotted inner)
    | some (.table .implied inner) =>
      if path.isEmpty then none
      else (assign name value path inner).map fun inner => put (.table .implied inner)
    | some (.tables front last) =>
      if path.isEmpty then none
      else (assign name value path last).map fun last => put (.tables front last)
    | some (.table .explicit _) => none
    | some (.value _) => none

mutual

def Item.toValue : Item → Value
  | .value v => v
  | .table _ members => .table (entriesOf members)
  | .tables front last => .array (tablesOf front ++ [.table (entriesOf last)])

def entriesOf : List (String × Item) → List (String × Value)
  | [] => []
  | (name, item) :: rest => (name, item.toValue) :: entriesOf rest

def tablesOf : List (List (String × Item)) → List Value
  | [] => []
  | members :: rest => .table (entriesOf members) :: tablesOf rest

end

/-- The tables read so far, and the names that lead to the one that is open. -/
structure Document where
  root : Members
  opened : List String

namespace Document

def empty : Document := ⟨[], []⟩

def add (doc : Document) : Statement → Option Document
  | .table path =>
    (alter (openTable path.last) path.parents doc.root).map fun root => ⟨root, path.names⟩
  | .tables path =>
    (alter (appendTable path.last) path.parents doc.root).map fun root => ⟨root, path.names⟩
  | .entry path value =>
    (alter (assign path.last value path.parents) doc.opened doc.root).map fun root =>
      { doc with root := root }

def addAll : Document → List Statement → Option Document
  | doc, [] => some doc
  | doc, s :: rest =>
    match doc.add s with
    | none => none
    | some doc => addAll doc rest

end Document

/-- The table that statements describe. -/
def ofStatements? (statements : List Statement) : Option (List (String × Value)) :=
  (Document.empty.addAll statements).map fun doc => entriesOf doc.root

/-- The table that entries between braces describe. -/
def ofEntries? (entries : List (KeyPath × Value)) : Option Value :=
  (ofStatements? (entries.map fun e => .entry e.1 e.2)).map .table

end RuleGraph.Toml
