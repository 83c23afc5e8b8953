import RuleGraph.Node.Registry

/-!
# Node types for exercising rule graphs

Filters that rewrite, fan out, fail or panic on purpose, and a producer that follows a script.
`Registry.exercise` adds them to the built-in types.
-/
namespace RuleGraph.Exercise

/-- The parts of a text between the places where a separator stands. `skip` characters belong to a
separator already found, and `part` is the current part, last character first. -/
def splitFrom (separator : List Char) : Nat → List Char → List Char → List (List Char)
  | _, part, [] => [part.reverse]
  | skip + 1, part, _ :: cs => splitFrom separator skip part cs
  | 0, part, c :: cs =>
    if separator.isPrefixOf (c :: cs) then
      part.reverse :: splitFrom separator (separator.length - 1) [] cs
    else splitFrom separator 0 (c :: part) cs

/-- An empty separator stands in front of each character and at the end. -/
def split (separator text : String) : List String :=
  let cs := text.toList
  let parts :=
    if separator.isEmpty then [] :: (cs.map fun c => [c]) ++ [[]]
    else splitFrom separator.toList 0 [] cs
  parts.map String.ofList

def occursIn (needle : List Char) : List Char → Bool
  | [] => needle.isEmpty
  | c :: cs => needle.isPrefixOf (c :: cs) || occursIn needle cs

def append (suffix : String) : Filter := fun m =>
  .matched ((m.withPayload (.string (m.text ++ suffix))).set "touched" (.bool true))

def flag (key value : String) : Filter := fun m => .matched (m.set key (.string value))

def splitter (separator : String) (keep : Bool) : Filter := fun m =>
  ⟨(split separator m.text).map fun s => m.withPayload (.string s), [], .decided keep m⟩

def picky (bad : String) : Filter := fun m =>
  if occursIn bad.toList m.text.toList then .failed (.runtime s!"cannot handle `{m.text}`")
  else .matched m

def explode (on : String) : Filter := fun m =>
  if m.text = on then ⟨[], [], .panicked⟩ else .matched m

/-- The ways in which a node refuses to be made. -/
def refusal (params : Params) : NodeError :=
  match params.getD "kind" "runtime" with
  | "missing" =>
    match params.require "absent" with
    | .ok _ => .runtime "absent is present"
    | .error e => e
  | "invalid" => .invalidParam "kind" "invalid" "because"
  | "io" => .io "disk on fire"
  | kind => .runtime s!"broken {kind}"

/-- The moves of a script: its items one after the other, then its end. -/
def scriptMoves (items : List String) (ending : String) : List Move :=
  let n := items.length
  let emits := items.zipIdx.map fun (s, i) => Move.emit (.ofPayload (.string s)) (i + 1)
  let told (stopped : Bool) : Move := .emit (.ofPayload (.bool stopped)) (n + 3)
  emits ++
    match ending with
    | "hold" => [.awaitStop (n + 1), .finish]
    | "nap" => [.pause ⟨Nat.pow 10 6⟩ (n + 1) (n + 2), told false, told true, .finish]
    | "sleep" => [.pause ⟨3600 * Nat.pow 10 9⟩ (n + 1) (n + 2), told false, told true, .finish]
    | "error" => [.fail (.runtime "script failed")]
    | "panic" => [.panic]
    | _ => [.finish]

def script (params : Params) : Except NodeError Producer :=
  let written := params.getD "items" ""
  let items := if written.isEmpty then [] else split "," written
  let moves := (scriptMoves items (params.getD "end" "")).toArray
  .ok ⟨0, fun k => moves.getD k .finish⟩

end RuleGraph.Exercise

namespace RuleGraph
open Exercise

/-- The built-in types together with the exercise types. -/
def Registry.exercise : Registry :=
  let filters : List (String × FilterFactory) :=
    [("append", fun p => .ok (append (p.getD "suffix" ""))),
      ("flag", fun p => do return flag (← p.require "key") (p.getD "value" "")),
      ("split", fun p => .ok (splitter (p.getD "sep" ",") (p.getD "keep" "" == "yes"))),
      ("picky", fun p => .ok (picky (p.getD "bad" "bad"))),
      ("explode", fun p => .ok (explode (p.getD "on" "boom"))),
      ("probe", fun _ => .ok .matched),
      ("dual", fun _ => .ok .matched),
      ("broken", fun p => .error (refusal p))]
  let producers : List (String × ProducerFactory) :=
    [("brokensource", fun p => .error (refusal p)), ("script", script), ("dual", script)]
  let r := filters.foldl (fun r e => r.addFilter e.1 e.2) Registry.builtins
  producers.foldl (fun r e => r.addProducer e.1 e.2) r

end RuleGraph
