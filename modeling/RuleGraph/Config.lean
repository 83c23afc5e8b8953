import RuleGraph.Node.Params
import RuleGraph.Rules.ParseError
import RuleGraph.Rules.File
import RuleGraph.Text.Quoted
import RuleGraph.Toml.Inline

/-!
# Configuration

A configuration names rule files and gives parameters to nodes: to all of them, and to those of
one type. `Config.parse` reads it from a configuration text, where every part may be left out but
no unknown part may stand.
-/
namespace RuleGraph

structure Config where
  level : String
  directory : Option Path
  rules : List Path
  /-- Values for nodes of all types. -/
  custom : Table Toml.Value
  /-- Values for the nodes of one type. -/
  nodes : Table (Table Toml.Value)
  deriving Repr

inductive ConfigFault
  | malformed
  | unreadable (file : Path) (cause : ReadFailure)
  deriving DecidableEq, Repr

def ConfigFault.message : ConfigFault → String
  | .malformed => "Failed to parse config"
  | .unreadable file cause =>
    s!"Failed to read config file {Text.quoted file.text}: {cause.message}"

namespace Config

def defaultLevel : String := "info"

def empty : Config := ⟨defaultLevel, none, [], [], []⟩

/-- Read an entry of a table where there is one. -/
def readEntry {α : Type} (table : List (String × Toml.Value)) (name : String) (missing : α)
    (read : Toml.Value → Option α) : Option α :=
  match table.lookup name with
  | none => some missing
  | some v => read v

def onlyKeys (names : List String) (table : List (String × Toml.Value)) : Bool :=
  table.all fun e => names.contains e.1

def path? (v : Toml.Value) : Option Path := v.string?.map fun s => ⟨s⟩

/-- The settings of the log, as a table or as a list of values in the order of the entries. -/
def log? : Toml.Value → Option (String × Option Path)
  | .table entries =>
    if onlyKeys ["level", "directory"] entries then do
      let level ← readEntry entries "level" defaultLevel Toml.Value.string?
      let directory ← readEntry entries "directory" none fun v => (path? v).map some
      some (level, directory)
    else none
  | .array [] => some (defaultLevel, none)
  | .array [level] => level.string?.map fun s => (s, none)
  | .array (level :: directory :: _) => do some (← level.string?, some (← path? directory))
  | _ => none

/-- Read each entry of a table. -/
def eachEntry {α : Type} (read : Toml.Value → Option α) :
    List (String × Toml.Value) → Option (List (String × α))
  | [] => some []
  | (name, v) :: rest => do
    let a ← read v
    let more ← eachEntry read rest
    some ((name, a) :: more)

def ofTable? (table : List (String × Toml.Value)) : Option Config :=
  if onlyKeys ["log", "rules", "custom", "nodes"] table then do
    let (level, directory) ← readEntry table "log" (defaultLevel, none) log?
    let rules ← readEntry table "rules" [] fun v => v.array?.bind fun vs => vs.mapM path?
    let custom ← readEntry table "custom" [] Toml.Value.entries?
    let nodes ← readEntry table "nodes" [] fun v =>
      (v.table?.bind (eachEntry Toml.Value.entries?)).map Table.ofList
    some ⟨level, directory, rules, custom, nodes⟩
  else none

def parse (source : String) : Except ConfigFault Config :=
  match (Toml.parse? source).bind ofTable? with
  | some config => .ok config
  | none => .error .malformed

/-- Read the relative paths of a configuration from a directory. -/
def rebase (base : Path) (c : Config) : Config :=
  let place (p : Path) : Path := if p.isAbsolute then p else base.join p
  { c with rules := c.rules.map place, directory := c.directory.map place }

def withCustom (c : Config) (key : String) (value : Toml.Value) : Config :=
  { c with custom := Table.insert key value c.custom }

def withNodeValue (c : Config) (type key : String) (value : Toml.Value) : Config :=
  let values := (Table.get? c.nodes type).getD []
  { c with nodes := Table.insert type (Table.insert key value values) c.nodes }

/-- The texts of the entries of a table. -/
def entryTexts (table : Table Toml.Value) : List (String × String) :=
  table.map fun e => (e.1, e.2.text)

def paramTexts (params : List Param) : List (String × String) :=
  params.map fun p => (p.name, p.value.render)

/-- What a node of a type is made from: the values for all nodes, over them the values for its
type, and over these the parameters written in the rule. -/
def nodeParams (c : Config) (type : String) (written : List Param) : Params :=
  .ofList (entryTexts c.custom ++ entryTexts ((Table.get? c.nodes type).getD []) ++
    paramTexts written)

end Config
end RuleGraph
