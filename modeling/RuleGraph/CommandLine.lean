import RuleGraph.Engine.Engine
import RuleGraph.Engine.Loading
import RuleGraph.Rules.Resolve

/-!
# The command line

The program takes a configuration file and rule files. It runs their producers, or only checks the
rules and lists them. `CommandLine.respond` decides all but the run itself.
-/
namespace RuleGraph.CommandLine

def programName : String := "ruleflow"

def version : String := "0.1.0"

structure Arguments where
  config : Option Path
  check : Bool
  rules : List Path
  deriving DecidableEq, Repr

inductive Request
  | run (arguments : Arguments)
  | version
  | help
  /-- Words that make no request, with what is wrong about them. -/
  | unclear (complaint : String)
  deriving DecidableEq, Repr

/-- The text behind a mark at the front of a word. -/
def behind? (mark word : String) : Option String :=
  if mark.toList.isPrefixOf word.toList then
    some (String.ofList (word.toList.drop mark.toList.length))
  else none

/-- Whether a word cannot be taken for a value. -/
def isOption (word : String) : Bool := word ≠ "-" && (behind? "-" word).isSome

/-- Note the configuration file; there is one at most. -/
def withConfig (a : Arguments) (value : String) : Except String Arguments :=
  if a.config.isSome then .error "the argument is given twice: --config"
  else if value.isEmpty then .error "a value is required: --config <FILE>"
  else .ok { a with config := some ⟨value⟩ }

/-- Read words; behind a double dash all of them are rule files. -/
def readWords (filesOnly : Bool) (a : Arguments) : List String → Request
  | [] => .run a
  | word :: rest =>
    if filesOnly || !isOption word then
      if word.isEmpty then .unclear "a value is required: [RULE_FILES]..."
      else readWords filesOnly { a with rules := a.rules ++ [⟨word⟩] } rest
    else if word = "--" then readWords true a rest
    else if word = "--check" then
      if a.check then .unclear "the argument is given twice: --check"
      else readWords false { a with check := true } rest
    else if word = "--version" || (behind? "-V" word).isSome then .version
    else if word = "--help" || (behind? "-h" word).isSome then .help
    else if word = "--config" || word = "-c" then
      match rest with
      | value :: rest =>
        if isOption value then .unclear "a value is required: --config <FILE>"
        else match withConfig a value with
          | .error complaint => .unclear complaint
          | .ok a => readWords false a rest
      | [] => .unclear "a value is required: --config <FILE>"
    else
      let joined := (behind? "--config=" word).or ((behind? "-c=" word).or (behind? "-c" word))
      match joined with
      | none => .unclear s!"unexpected argument: {word}"
      | some value =>
        match withConfig a value with
        | .error complaint => .unclear complaint
        | .ok a => readWords false a rest

def request (words : List String) : Request := readWords false ⟨none, false, []⟩ words

def usage : String := s!"Usage: {programName} [--config <FILE>] [--check] [RULE_FILES]...\n"

/-- A text as a cause, behind its number if causes are counted; further lines are indented. -/
def causeLines (number : Option Nat) (text : String) : String :=
  let lead :=
    match number with
    | some n =>
      let digits := toString n
      String.ofList (List.replicate (5 - digits.length) ' ') ++ digits ++ ": "
    | none => "    "
  let indent := if number.isSome then "       " else "    "
  lead ++ String.intercalate ("\n" ++ indent) (text.splitOn "\n")

/-- How a failure is reported: what went wrong and, from the outside in, why. -/
def report (headline : String) (causes : List String) : String :=
  let lines :=
    match causes with
    | [] => []
    | [cause] => ["", "Caused by:", causeLines none cause]
    | causes => ["", "Caused by:"] ++ causes.zipIdx.map fun (c, n) => causeLines (some n) c
  "Error: " ++ String.intercalate "\n" (headline :: lines) ++ "\n"

def padded (width : Nat) (s : String) : String :=
  s ++ String.ofList (List.replicate (width - s.length) ' ')

def ruleLine (r : CompiledRule) : String :=
  let name := padded 24 r.name
  s!"  {name} {r.first.describe} -> {r.last.describe}  ({r.file.text})\n"

/-- The list of rules that a check prints. -/
def summary (rs : Ruleset) : String :=
  let head := s!"{rs.rules.length} rules ({rs.roots.length} with producers), {rs.next.text} nodes\n"
  head ++ String.join (rs.rules.map ruleLine)

inductive Response
  /-- The program ends with an exit code and texts for its two outputs. -/
  | done (code : Nat) (output errors : String)
  /-- The producers of an engine are to be run until they end. -/
  | run (engine : Engine) (config : Config)

def failure (headline : String) (causes : List String) : Response :=
  .done 1 "" (report headline causes)

/-- Compile the rules of a configuration and check or run them. -/
def launch (source : Source) (check : Bool) (config : Config) : Response :=
  if config.rules.isEmpty then
    failure ("No rule files given (pass them as arguments or list them under `rules` in the " ++
      "config)") []
  else
    match source.resolve config.rules with
    | .error e => failure "Failed to load rule files" (e.message :: e.causes)
    | .ok files =>
      match (Engine.ofFiles Registry.builtins config files).1 with
      | .error e => failure "Failed to compile rules" (e.message :: e.causes)
      | .ok engine =>
        if check then .done 0 (summary engine.ruleset) "" else .run engine config

def configOf (source : Source) : Option Path → Except EngineError Config
  | none => .ok .empty
  | some file => Config.load source file

/-- What the program does when it is called with words. -/
def respond (source : Source) (words : List String) : Response :=
  match request words with
  | .version => .done 0 s!"{programName} {version}\n" ""
  | .help => .done 0 usage ""
  | .unclear complaint => .done 2 "" s!"error: {complaint}\n\n{usage}"
  | .run a =>
    match configOf source a.config with
    | .error e => failure e.message e.causes
    | .ok config => launch source a.check { config with rules := config.rules ++ a.rules }

end RuleGraph.CommandLine
