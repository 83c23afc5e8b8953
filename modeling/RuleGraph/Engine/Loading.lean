import RuleGraph.Engine.EngineError
import RuleGraph.Rules.Source

/-!
# Loading configurations

A configuration file's relative paths are read from the directory of the file.
-/
namespace RuleGraph.Config

def load (source : Source) (file : Path) : Except EngineError Config :=
  match source.read file with
  | .error cause => .error (.config (.unreadable file cause))
  | .ok text =>
    match Config.parse text with
    | .error fault => .error (.context s!"In {file.text}" (.config fault))
    | .ok config =>
      match file.parent? with
      | some base => .ok (if base.text.isEmpty then config else config.rebase base)
      | none => .ok config

end RuleGraph.Config
