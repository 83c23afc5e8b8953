import RuleGraph.CommandLine
import Std.Time.Format

/-!
# The program

Reads the files that the command line asks for, lets `CommandLine.respond` decide what to do, and
runs producers in real time. Nothing is decided here.
-/
namespace RuleGraph.Program

/-- What was read from disk: the keys of paths, and the texts under paths. -/
structure Snapshot where
  keys : List (Path × Path)
  texts : List (Path × Except ReadFailure String)

namespace Snapshot

def toSource (s : Snapshot) : Source :=
  ⟨fun p => ((s.keys.find? fun k => k.1 = p).map Prod.snd).getD p.normalize,
    fun p => ((s.texts.find? fun t => t.1 = p).map Prod.snd).getD (.error .notFound),
    s.texts.length⟩

def hasKey (s : Snapshot) (p : Path) : Bool := s.keys.any fun k => k.1 = p

def hasText (s : Snapshot) (p : Path) : Bool := s.texts.any fun t => t.1 = p

end Snapshot

def readText (p : Path) : IO (Except ReadFailure String) := do
  try
    return .ok (← IO.FS.readFile p.text)
  catch e =>
    match e with
    | .noFileOrDirectory .. => return .error .notFound
    | .inappropriateType _ 20 _ => return .error .notDirectory
    | .inappropriateType .. => return .error .isDirectory
    | .userError _ => return .error .notUtf8
    | e => return .error (.other (toString e))

def canonical (p : Path) : IO Path := do
  try
    return ⟨(← IO.FS.realPath p.text).toString⟩
  catch _ => return p.normalize

/-- Read the text at a path into a snapshot. -/
def withText (s : Snapshot) (p : Path) : IO Snapshot := do
  if s.hasText p then return s
  return { s with texts := (p, ← readText p) :: s.texts }

/-- Read a rule file and everything that it imports. -/
partial def withRuleFile (s : Snapshot) (p : Path) : IO Snapshot := do
  if s.hasKey p then return s
  let key ← canonical p
  let s := { s with keys := (p, key) :: s.keys }
  if s.hasText key then return s
  let s ← withText s key
  match s.toSource.read key with
  | .error _ => return s
  | .ok text =>
    match RuleFile.parse key text with
    | .error _ => return s
    | .ok file => file.imports.foldlM withRuleFile s

/-- Read all that a request asks for. -/
def snapshot (words : List String) : IO Snapshot := do
  let s : Snapshot := ⟨[], []⟩
  match CommandLine.request words with
  | .run a =>
    let s ← a.config.toList.foldlM withText s
    match CommandLine.configOf s.toSource a.config with
    | .error _ => return s
    | .ok config => (config.rules ++ a.rules).foldlM withRuleFile s
  | _ => return s

/-- The levels that a log of the given level shows. -/
def levelsFrom : String → List Level
  | "off" => []
  | "error" => [.error]
  | "warn" => [.warn, .error]
  | "debug" => [.debug, .info, .warn, .error]
  | "trace" => [.trace, .debug, .info, .warn, .error]
  | _ => [.info, .warn, .error]

def printEvents (levels : List Level) (events : List Event) : IO Unit :=
  (events.filter fun e => levels.contains e.level).forM fun e => IO.println e.line

/-- Let the bus come to rest, and print what is new in the journals. -/
def tell (levels : List Level) (e : Engine) : IO Engine := do
  let e := e.settle
  printEvents levels (e.journal ++ e.ruleset.bus.events)
  let bus := { e.ruleset.bus with published := [], delivered := [], events := [] }
  return { e with journal := [], ruleset := { e.ruleset with bus := bus, journal := [] } }

def timeOfDay : IO String := do
  let now := Std.Time.DateTime.ofTimestamp (← Std.Time.Timestamp.now) .UTC
  return now.toPlainDateTime.toLeanDateTimeString ++ "+00:00"

/-- When the pause of a loop is over that begins at a time, in nanoseconds. -/
def dueTime? (e : Engine) (begin_ : Nat) (i : Nat) : Option (Nat × Nat) :=
  (e.pause? i).map fun (time, _) => (i, begin_ + time.nanos)

/-- Wake the loop whose pause ends first, until no loop pauses. A loop that pauses again pauses
from the time at which the last pause was to end. -/
partial def runLoops (levels : List Level) (e : Engine) (due : List (Nat × Nat)) : IO Engine := do
  match due.mergeSort fun a b => a.2 ≤ b.2 with
  | [] => return e
  | (i, time) :: others =>
    let now ← IO.monoNanosNow
    if now < time then IO.sleep (((time - now) + 999999) / 1000000).toUInt32
    let e ← tell levels ({ e with now := ← timeOfDay }.wake i)
    runLoops levels e ((dueTime? e time i).toList ++ others)

def run (engine : Engine) (config : Config) : IO Unit := do
  let levels := levelsFrom config.level
  printEvents levels engine.ruleset.journal
  let (_, engine) := engine.startAll
  let engine ← tell levels engine
  let now ← IO.monoNanosNow
  let due := (List.range engine.loops.length).filterMap (dueTime? engine now)
  let engine ← runLoops levels engine due
  discard (tell levels engine.waitAll)

end RuleGraph.Program

open RuleGraph in
def main (words : List String) : IO UInt32 := do
  let source := (← Program.snapshot words).toSource
  match CommandLine.respond source words with
  | .done code output errors =>
    IO.print output
    IO.eprint errors
    return code.toUInt32
  | .run engine config =>
    Program.run engine config
    return 0
