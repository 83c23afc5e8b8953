import RuleGraph.Node.Behaviour

/-!
# The filter `echo`

Writes the text of each message into the journal, behind the parameter `prefix` if there is one,
and lets the message pass.
-/
namespace RuleGraph.Echo

def typeName : String := "echo"

def filter (lead : Option String) : Filter := fun m =>
  let rule := (m.text? Message.ruleKey).getD "-"
  let text :=
    match lead with
    | some lead => lead ++ ": " ++ m.text
    | none => m.text
  ⟨[], [.echoed rule text], .decided true m⟩

def make (params : Params) : Except NodeError Filter := .ok (filter (params.get? "prefix"))

end RuleGraph.Echo
