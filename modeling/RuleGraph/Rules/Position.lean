/-!
# Positions in a text

Lines and columns are counted from one. A column is a number of characters, whatever space they
take when written down.
-/
namespace RuleGraph

structure Position where
  line : Nat
  column : Nat
  deriving DecidableEq, Repr, Inhabited

namespace Position

def start : Position := ⟨1, 1⟩

def advance (p : Position) (c : Char) : Position :=
  if c = '\n' then ⟨p.line + 1, 1⟩ else ⟨p.line, p.column + 1⟩

/-- The position behind the characters `cs` when they begin at `p`. -/
def after (p : Position) (cs : List Char) : Position := cs.foldl advance p

def text (p : Position) : String := s!"{p.line}:{p.column}"

theorem after_append (p : Position) (cs ds : List Char) :
    p.after (cs ++ ds) = (p.after cs).after ds := List.foldl_append

end Position
end RuleGraph
