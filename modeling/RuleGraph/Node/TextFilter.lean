import RuleGraph.Node.Behaviour
import RuleGraph.Regex.Program

/-!
# The filter `text`

Matches a regular expression against the text of a message. In the mode `match` the message passes
when the expression matches; in the mode `extract` the filter emits a copy of the message for each
match, with the text of the match as its payload, and lets the message itself not pass.
-/
namespace RuleGraph.TextFilter

def typeName : String := "text"

inductive Mode
  | whole
  | extract
  deriving DecidableEq, Repr

def mode? : String → Option Mode
  | "match" => some .whole
  | "extract" => some .extract
  | _ => none

def filter (pattern : Regex) : Mode → Filter
  | .whole => fun m => ⟨[], [], .decided (pattern.isMatch m.text) m⟩
  | .extract => fun m =>
    ⟨(pattern.extract m.text).map fun s => m.withPayload (.string s), [], .decided false m⟩

/-- How a pattern that is no regular expression is reported. -/
def patternFault : String := "<regex error>"

def make (params : Params) : Except NodeError Filter := do
  let raw ← params.require "pattern"
  match Regex.compile? raw with
  | none => .error (.invalidParam "pattern" raw patternFault)
  | some pattern =>
    let written := params.getD "mode" "match"
    match mode? written with
    | none => .error (.invalidParam "mode" written "expected `match` or `extract`")
    | some mode => .ok (filter pattern mode)

end RuleGraph.TextFilter
