import RuleGraph.Graph.Build
import RuleGraph.Rules.ParsedFiles

/-!
# Rulesets

A ruleset is the graph of the rules compiled so far. Files are compiled behind the files that they
import, each of them once. A rule is added as a whole or not at all, unless the system refuses a
thread for one of its wires: those in front of it are connected then.
-/
namespace RuleGraph

/-- A subscription that was refused, as an error. -/
def GraphError.ofRefusal (topic : Topic) : Refusal → GraphError
  | .closed => .closedBus topic
  | .noThread reason => .noThread topic reason
  | .badName => .unnamedThread topic

structure Ruleset where
  registry : Registry
  config : Config
  bus : Bus FilterNode
  /-- The number of the next node. -/
  next : NodeId
  /-- In the order of definition. -/
  rules : List CompiledRule
  /-- Files compiled, each with all files that it imports, directly or not. -/
  compiled : List (Path × List Path)
  /-- Files whose imports are being compiled. -/
  inProgress : List Path
  /-- The edges that the subscriptions make, each of them once. -/
  downstream : List Edge
  journal : List Event
  /-- What the system will answer when threads are to be started. -/
  threads : Threads

namespace Ruleset

/-- A step on a ruleset gives its result, or its error, and the ruleset as it leaves it. -/
abbrev Outcome (α : Type) := Except GraphError α × Ruleset

def new (registry : Registry) (config : Config) : Ruleset :=
  ⟨registry, config, .empty, ⟨0⟩, [], [], [], [], [], .ample⟩

def rule? (rs : Ruleset) (name : String) : Option CompiledRule :=
  rs.rules.find? fun r => r.name = name

def ruleNames (rs : Ruleset) : List String := rs.rules.map CompiledRule.name

/-- The rules that begin with a producer. -/
def roots (rs : Ruleset) : List CompiledRule := rs.rules.filter CompiledRule.hasProducer

def rootNames (rs : Ruleset) : List String := rs.roots.map CompiledRule.name

/-- The nodes that registered rules made. -/
def nodes (rs : Ruleset) : List Node := rs.rules.flatMap CompiledRule.nodes

def note (rs : Ruleset) (e : Event) : Ruleset := { rs with journal := rs.journal ++ [e] }

def describe (rs : Ruleset) : String :=
  "Ruleset \x7b rules: " ++ Text.quotedList rs.ruleNames ++ ", root_rule_names: " ++
    Text.quotedList rs.rootNames ++ ", nodes: " ++ rs.next.text ++ " \x7d"

/-- Whether a path is in a list, in whatever spelling. -/
def hasPath (paths : List Path) (path : Path) : Bool := paths.any path.same

/-- A rule that a rule of `file` may call: one of its own file, or of a file that it depends
on. -/
def callee? (rs : Ruleset) (file : Path) (deps : List Path) (name : String) :
    Option CompiledRule :=
  (rs.rule? name).filter fun callee => callee.file.same file || hasPath deps callee.file

def workshop (rs : Ruleset) (file : Path) (deps : List Path) : Workshop :=
  ⟨rs.registry, rs.config, rs.callee? file deps⟩

def supply (rs : Ruleset) : Supply := ⟨rs.next, []⟩

/-- The ruleset after a supply was used. -/
def use (rs : Ruleset) (s : Supply) : Ruleset :=
  { rs with next := s.next, journal := rs.journal ++ s.journal }

def addEdge (edges : List Edge) (e : Edge) : List Edge :=
  if edges.contains e then edges else edges ++ [e]

/-- The ruleset with the target of a wire subscribed. -/
def wired (rs : Ruleset) (w : Wire) (bus : Bus FilterNode) (threads : Threads) : Ruleset :=
  { rs with bus, threads, downstream := addEdge rs.downstream w.edge }

/-- Subscribe the targets of wires, in order, up to the first that is refused. -/
def connect (rs : Ruleset) : List Wire → Outcome Unit
  | [] => (.ok (), rs)
  | w :: rest =>
    match rs.bus.subscribe rs.threads w.topic w.target with
    | .error refusal => (.error (.ofRefusal w.topic refusal), rs)
    | .ok (bus, threads) => connect (rs.wired w bus threads) rest

/-- Add the rule that flow and wires belong to, unless a wire closes a cycle. -/
def install (rs : Ruleset) (file : Path) (name : String) (flow : Flow) (wires : List Wire) :
    Outcome Unit :=
  match firstCycle? rs.downstream wires with
  | some w => (.error (.cyclicCall (w.call.getD name)), rs)
  | none =>
    match rs.connect wires with
    | (.error e, rs) => (.error e, rs)
    | (.ok (), rs) => (.ok (), { rs with rules := rs.rules ++ [⟨name, file, flow⟩] })

/-- Build a rule and add it. `deps` are the files whose rules it may call besides those of its own
file. -/
def tryRule (rs : Ruleset) (file : Path) (rule : Rule) (deps : List Path) : Outcome Unit :=
  if rule.name.isEmpty then (.error .emptyRuleName, rs)
  else if (rs.rule? rule.name).isSome then (.error (.duplicateRule rule.name), rs)
  else
    match (rs.workshop file deps).buildRule rule rs.supply with
    | (.error e, s) => (.error e, rs.use s)
    | (.ok (flow, wires), s) => (rs.use s).install file rule.name flow wires

/-- Build a rule and add it; an error tells in which rule of which file it was found. -/
def addRule (rs : Ruleset) (file : Path) (rule : Rule) (deps : List Path) : Outcome Unit :=
  match rs.tryRule file rule deps with
  | (.error e, rs) => (.error (.inRule file rule.name e), rs)
  | (.ok (), rs) => (.ok (), rs)

def addRules (rs : Ruleset) (file : Path) (deps : List Path) : List Rule → Outcome Unit
  | [] => (.ok (), rs)
  | rule :: rest =>
    match rs.addRule file rule deps with
    | (.error e, rs) => (.error e, rs)
    | (.ok (), rs) => addRules rs file deps rest

def dependencies? (rs : Ruleset) (file : Path) : Option (List Path) :=
  (rs.compiled.find? fun c => file.same c.1).map Prod.snd

def isCompiled (rs : Ruleset) (file : Path) : Bool := (rs.dependencies? file).isSome

def enter (rs : Ruleset) (file : Path) : Ruleset :=
  { rs with inProgress := file :: rs.inProgress }

def leave (rs : Ruleset) (file : Path) : Ruleset :=
  { rs with inProgress := rs.inProgress.filter fun p => !file.same p }

/-- Behind an error a file is in progress no longer. A panic leaves it there. -/
def giveUp (rs : Ruleset) (file : Path) (e : GraphError) : Ruleset :=
  if e.isPanic then rs else rs.leave file

/-- Append the paths that are not in a list yet, one after the other. -/
def addPaths (paths more : List Path) : List Path :=
  more.foldl (fun ps p => if hasPath ps p then ps else ps ++ [p]) paths

/-- Compile imports one after the other; gives `deps` with all files that they bring in. -/
def compileImports (compile : RuleFile → Ruleset → Outcome (List Path)) (files : ParsedFiles)
    (file : Path) : List Path → List Path → Ruleset → Outcome (List Path)
  | deps, [], rs => (.ok deps, rs)
  | deps, path :: rest, rs =>
    match files.get? path with
    | none => (.error (.missingDependency file path), rs)
    | some imported =>
      match compile imported rs with
      | (.error e, rs) => (.error e, rs)
      | (.ok transitive, rs) =>
        compileImports compile files file (addPaths deps (transitive ++ [path])) rest rs

/-- Compile the imports of a file, then its rules. -/
def compileBody (compile : RuleFile → Ruleset → Outcome (List Path)) (files : ParsedFiles)
    (file : RuleFile) (rs : Ruleset) : Outcome (List Path) :=
  match compileImports compile files file.path [] file.imports rs with
  | (.error e, rs) => (.error e, rs)
  | (.ok deps, rs) =>
    match (rs.note (.compiling file.path file.rules.length deps.length)).addRules file.path deps
        file.rules with
    | (.error e, rs) => (.error e, rs)
    | (.ok (), rs) => (.ok deps, rs)

/-- Compile a file; gives all files that it imports. The number bounds the length of a chain of
imports. -/
def compileWithin (files : ParsedFiles) : Nat → RuleFile → Ruleset → Outcome (List Path)
  | 0, file, rs => (.error (.cyclicDependency file.path), rs)
  | depth + 1, file, rs =>
    match rs.dependencies? file.path with
    | some deps => (.ok deps, rs)
    | none =>
      if hasPath rs.inProgress file.path then (.error (.cyclicDependency file.path), rs)
      else
        match compileBody (compileWithin files depth) files file (rs.enter file.path) with
        | (.error e, rs) => (.error e, rs.giveUp file.path e)
        | (.ok deps, rs) =>
          let rs := rs.leave file.path
          (.ok deps, { rs with compiled := rs.compiled ++ [(file.path, deps)] })

/-- Compile a file behind everything it imports; gives all files that it imports. A file compiled
before is not compiled again. The files on a chain of imports are different, so that their number
bounds its length. -/
def compile (rs : Ruleset) (files : ParsedFiles) (file : RuleFile) : Outcome (List Path) :=
  compileWithin files (files.length + 2) file rs

def compileEach (rs : Ruleset) (files : ParsedFiles) : List RuleFile → Outcome Unit
  | [] => (.ok (), rs)
  | file :: rest =>
    match rs.compile files file with
    | (.error e, rs) => (.error e, rs)
    | (.ok _, rs) => compileEach rs files rest

/-- Compile all files, in path order, up to the first error. -/
def compileAll (rs : Ruleset) (files : ParsedFiles) : Outcome Unit :=
  rs.compileEach files files.values

/-- Let the bus come to rest. -/
def settle (rs : Ruleset) : Ruleset :=
  { rs with bus := rs.bus.settle FilterNode.pipe Bus.ampleSteps }

/-- Publish what a node does with a message that is put in at it; says whether it panicked. -/
def feed (rs : Ruleset) (node : Node) (m : Message) : Bool × Ruleset :=
  let h := node.feed m
  (h.panicked, { rs with bus := (rs.bus.note h.events).publishAll h.published })

def publish (rs : Ruleset) (topic : Topic) (m : Message) : Ruleset :=
  { rs with bus := rs.bus.publish topic m }

def shutdown (rs : Ruleset) : Ruleset := { rs with bus := rs.bus.shutdown }

end Ruleset
end RuleGraph
