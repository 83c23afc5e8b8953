import RuleGraph.Decimal.Binary64
import RuleGraph.Table

/-!
# Payload values

Messages carry JSON values. Whole numbers of 64 bits are kept apart from the other numbers, and
the members of an object stand in the order of their names.
-/
namespace RuleGraph

inductive Json
  | null
  | bool (value : Bool)
  | int (value : Int)
  | float (value : Binary64)
  | string (value : String)
  | array (items : List Json)
  | object (members : List (String × Json))
  deriving Repr, Inhabited

namespace Json

mutual

/-- Equality of values; numbers are compared as numbers within each of the two kinds. -/
def same : Json → Json → Bool
  | .null, .null => true
  | .bool a, .bool b => a == b
  | .int a, .int b => a == b
  | .float a, .float b => a.same b
  | .string a, .string b => a == b
  | .array a, .array b => sameItems a b
  | .object a, .object b => sameMembers a b
  | _, _ => false

def sameItems : List Json → List Json → Bool
  | [], [] => true
  | a :: as, b :: bs => same a b && sameItems as bs
  | _, _ => false

def sameMembers : List (String × Json) → List (String × Json) → Bool
  | [], [] => true
  | (k, a) :: as, (l, b) :: bs => k == l && same a b && sameMembers as bs
  | _, _ => false

end

def string? : Json → Option String
  | .string s => some s
  | _ => none

/-- An object with the given members, the last of each name. -/
def ofMembers (members : List (String × Json)) : Json := .object (Table.ofList members)

/-- The index that a step of a pointer names: digits without a leading zero. -/
def index? (step : String) : Option Nat :=
  let cs := step.toList
  if cs.isEmpty || !cs.all (fun c => '0' ≤ c && c ≤ '9') then none
  else if cs.head? == some '0' && cs.length ≠ 1 then none
  else some (cs.foldl (fun n c => 10 * n + (c.toNat - '0'.toNat)) 0)

/-- The value with `new` in the place that the steps lead to, when there is such a place. -/
def replace? (new : Json) : List String → Json → Option Json
  | [], _ => some new
  | step :: steps, .array items =>
    match index? step with
    | none => none
    | some i =>
      match items[i]? with
      | none => none
      | some item => (replace? new steps item).map fun item' => .array (items.set i item')
  | step :: steps, .object members =>
    match Table.get? members step with
    | none => none
    | some value =>
      (replace? new steps value).map fun value' => .object (Table.insert step value' members)
  | _ :: _, _ => none

/-- A step of a pointer as it is written: `~1` stands for a slash and `~0` for a tilde. -/
def unescapeStep : List Char → List Char
  | '~' :: '1' :: cs => '/' :: unescapeStep cs
  | '~' :: '0' :: cs => '~' :: unescapeStep cs
  | c :: cs => c :: unescapeStep cs
  | [] => []

/-- The steps of a pointer text; only the empty text and texts that begin with a slash are
pointers. -/
def pointer? (text : String) : Option (List String) :=
  match text.toList with
  | [] => some []
  | '/' :: cs =>
    some ((String.ofList cs).splitOn "/" |>.map fun s => String.ofList (unescapeStep s.toList))
  | _ => none

end Json
end RuleGraph
