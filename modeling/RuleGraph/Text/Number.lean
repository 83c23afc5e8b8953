import RuleGraph.Decimal.Reading
import RuleGraph.Text.Blank

/-!
# Numbers and truth values given as text

Readers for parameter values. Each says why a text is refused; of two faults in an integer, the one
further to the front counts.
-/
namespace RuleGraph

inductive NumberFault
  | emptyInteger
  | invalidDigit
  | tooLarge
  | tooSmall
  | notBoolean
  | emptyFloat
  | invalidFloat
  deriving DecidableEq, Repr

def NumberFault.message : NumberFault → String
  | .emptyInteger => "cannot parse integer from empty string"
  | .invalidDigit => "invalid digit found in string"
  | .tooLarge => "number too large to fit in target type"
  | .tooSmall => "number too small to fit in target type"
  | .notBoolean => "provided string was not `true` or `false`"
  | .emptyFloat => "cannot parse float from empty string"
  | .invalidFloat => "invalid float literal"

namespace Text

/-- Digits behind the number `n`, which has to stay within `limit`. -/
def readDigits (limit : Nat) (beyond : NumberFault) (n : Nat) : List Char → Except NumberFault Nat
  | [] => .ok n
  | c :: cs =>
    if Decimal.isDigit c then
      let m := 10 * n + Decimal.digitValue c
      if limit < m then .error beyond else readDigits limit beyond m cs
    else .error .invalidDigit

/-- A natural number below 2^`bits`; a plus sign may stand in front. -/
def readUnsigned (bits : Nat) (cs : List Char) : Except NumberFault Nat :=
  match cs with
  | [] => .error .emptyInteger
  | ['+'] => .error .invalidDigit
  | '+' :: cs => readDigits (Nat.pow 2 bits - 1) .tooLarge 0 cs
  | cs => readDigits (Nat.pow 2 bits - 1) .tooLarge 0 cs

/-- An integer of `bits` bits with an optional sign. -/
def readSigned (bits : Nat) (cs : List Char) : Except NumberFault Int :=
  match cs with
  | [] => .error .emptyInteger
  | ['+'] | ['-'] => .error .invalidDigit
  | '-' :: cs => (readDigits (Nat.pow 2 (bits - 1)) .tooSmall 0 cs).map fun n => -(n : Int)
  | '+' :: cs => (readDigits (Nat.pow 2 (bits - 1) - 1) .tooLarge 0 cs).map fun n => (n : Int)
  | cs => (readDigits (Nat.pow 2 (bits - 1) - 1) .tooLarge 0 cs).map fun n => (n : Int)

def readBool (cs : List Char) : Except NumberFault Bool :=
  if cs = "true".toList then .ok true
  else if cs = "false".toList then .ok false
  else .error .notBoolean

def readFloat (cs : List Char) : Except NumberFault Binary64 :=
  if cs.isEmpty then .error .emptyFloat
  else match Binary64.read? cs with
    | some x => .ok x
    | none => .error .invalidFloat

end Text
end RuleGraph
