import RuleGraph.Unicode.Age
import RuleGraph.Unicode.Break
import RuleGraph.Unicode.ScriptExtension

/-!
# Sets of characters by the names of properties

A single name denotes a yes-or-no property, a general category or a script. A name with a value
denotes the characters for which a property has that value. Names count without regard to capitals,
spaces, dashes, underscores and the word `is` before them.
-/
namespace RuleGraph.Unicode.Query

def lowered (name : List Char) : List Char :=
  (name.filter fun c => c.toNat < 0x80 && c != ' ' && c != '_' && c != '-').map Char.toLower

/-- A name in the form in which names are compared. -/
def normalName (name : List Char) : String :=
  match name with
  | i :: s :: rest =>
    if i.toLower = 'i' && s.toLower = 's' then
      (if lowered rest = ['c'] then "isc" else String.ofList (lowered rest))
    else String.ofList (lowered name)
  | _ => String.ofList (lowered name)

/-- The set of a single name. -/
def named? (name : List Char) : Option Ranges :=
  let name := normalName name
  (Property.find? name).orElse fun _ => (Category.find? name).orElse fun _ => Script.find? name

/-- The characters for which a property has a value. -/
def valued? (property value : List Char) : Option Ranges :=
  let value := normalName value
  match normalName property with
  | "generalcategory" | "gc" => Category.find? value
  | "script" | "sc" => Script.find? value
  | "scriptextensions" | "scx" => ScriptExtension.find? value
  | "age" => Age.find? value
  | "graphemeclusterbreak" | "gcb" => Break.find? Break.Grapheme.table value
  | "wordbreak" | "wb" => Break.find? Break.Word.table value
  | "sentencebreak" | "sb" => Break.find? Break.Sentence.table value
  | _ => none

/-- A text divided at the first place where `sign` stands. -/
def divide? (sign : List Char) : List Char → Option (List Char × List Char)
  | [] => none
  | c :: cs =>
    if sign.isPrefixOf (c :: cs) then some ([], (c :: cs).drop sign.length)
    else (divide? sign cs).map fun (before, behind) => (c :: before, behind)

/-- The set that a text denotes, and whether the text asks for its opposite: a name and a value
stand on the two sides of `!=`, or else of a colon, or else of an equals sign. -/
def find? (text : List Char) : Option (Ranges × Bool) :=
  match divide? ['!', '='] text with
  | some (property, value) => (valued? property value).map fun set => (set, true)
  | none =>
    match (divide? [':'] text).orElse fun _ => divide? ['='] text with
    | some (property, value) => (valued? property value).map fun set => (set, false)
    | none => (named? text).map fun set => (set, false)

end RuleGraph.Unicode.Query
