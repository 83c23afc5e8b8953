import RuleGraph.Toml.Parser

/-!
# Values on one line

How a value is written where a text is wanted. A string, a number, a truth value or a moment
stands for itself. Arrays and tables are written in the notation of configuration texts: of the
entries of a table those with plain values first, then arrays that hold tables, and tables last.
-/
namespace RuleGraph.Toml

/-- What of a string decides how it can be quoted. -/
structure Quoting where
  /-- A control character other than a tab or a line feed occurs. -/
  needsEscapes : Bool
  backslash : Bool
  lineFeed : Bool
  /-- The most double quotes, and the most single quotes, in a row. -/
  doubleRun : Nat
  singleRun : Nat

/-- The length of the longest run of a character; `current` of them stand just in front. -/
def longestRun (mark : Char) (current : Nat) : List Char → Nat
  | [] => current
  | c :: cs =>
    if c = mark then longestRun mark (current + 1) cs
    else max current (longestRun mark 0 cs)

def isControl (c : Char) : Bool := c.toNat < 0x20 || c.toNat == 0x7F

def Quoting.of (cs : List Char) : Quoting :=
  ⟨cs.any fun c => isControl c && c != '\t' && c != '\n', cs.contains '\\', cs.contains '\n',
    longestRun '"' 0 cs, longestRun '\x27' 0 cs⟩

def upperHex (n : Nat) : List Char := (Nat.toDigits 16 n).map Char.toUpper

def escape (c : Char) : List Char :=
  if c = '\t' then ['\\', 't']
  else if c = '\n' then ['\\', 'n']
  else if c = '\r' then ['\\', 'r']
  else if c.toNat = 8 then ['\\', 'b']
  else if c.toNat = 12 then ['\\', 'f']
  else if c = '\\' then ['\\', '\\']
  else if isControl c then
    let digits := upperHex c.toNat
    '\\' :: 'u' :: List.replicate (4 - digits.length) '0' ++ digits
  else [c]

/-- The characters between double quotes. So many double quotes in a row as `quotes` says stand
for themselves, and line feeds do if `lines` says so; `run` quotes stand just in front. -/
def escapeAll (quotes : Nat) (lines : Bool) (run : Nat) : List Char → List Char
  | [] => []
  | c :: cs =>
    if c = '"' then
      if run < quotes then '"' :: escapeAll quotes lines (run + 1) cs
      else '\\' :: '"' :: escapeAll quotes lines 0 cs
    else if c = '\n' && lines then '\n' :: escapeAll quotes lines 0 cs
    else escape c ++ escapeAll quotes lines 0 cs

/-- A string between delimiters; a string with line feeds begins on a line of its own. -/
def delimited (delimiter : List Char) (lines : Bool) (cs : List Char) : List Char :=
  delimiter ++ (if lines then ['\n'] else []) ++ cs ++ delimiter

def basicForm (cs : List Char) : List Char := delimited ['"'] false (escapeAll 0 false 0 cs)

def literalForm (cs : List Char) : List Char := delimited ['\x27'] false cs

/-- A string in quotes: in the first of the four notations that needs no escape, or else with
escapes. -/
def quoted (cs : List Char) : List Char :=
  let q := Quoting.of cs
  let basicLines := delimited ['"', '"', '"'] q.lineFeed (escapeAll 2 true 0 cs)
  if !q.needsEscapes && !q.backslash && q.doubleRun = 0 && !q.lineFeed then basicForm cs
  else if !q.needsEscapes && q.singleRun = 0 && !q.lineFeed then literalForm cs
  else if !q.needsEscapes && !q.backslash && q.doubleRun ≤ 2 then basicLines
  else if !q.needsEscapes && q.singleRun ≤ 2 then
    delimited ['\x27', '\x27', '\x27'] q.lineFeed cs
  else if q.lineFeed then basicLines
  else basicForm cs

def keyForm (cs : List Char) : List Char :=
  let q := Quoting.of cs
  if !cs.isEmpty && cs.all isBare then cs
  else if !q.needsEscapes && !q.lineFeed && !q.backslash && q.doubleRun = 0 then basicForm cs
  else if !q.needsEscapes && !q.lineFeed && q.singleRun = 0 then literalForm cs
  else basicForm cs

/-- A number that reads back as a float: whole ones get a fraction of zero. -/
def floatForm (x : Binary64) : String :=
  match x with
  | .nan => "nan"
  | .infinite negative => if negative then "-inf" else "inf"
  | x => if x.toInt?.isSome then x.text ++ ".0" else x.text

/-- The place of an entry among the entries of its table. -/
def Value.rank : Value → Nat
  | .array items => if items.any Value.isTable then 1 else 0
  | .table _ => 2
  | _ => 0

mutual

def Value.inline : Value → String
  | .string s => String.ofList (quoted s.toList)
  | .integer n => toString n
  | .float x => floatForm x
  | .boolean b => toString b
  | .moment m => m.text
  | .array items => "[" ++ String.intercalate ", " (inlineItems items) ++ "]"
  | .table entries =>
    let written := inlineEntries entries
    let ranked (n : Nat) : List String :=
      (written.filter fun e => e.1 = n).map Prod.snd
    if entries.isEmpty then "\x7b\x7d"
    else "\x7b " ++ String.intercalate ", " (ranked 0 ++ ranked 1 ++ ranked 2) ++ " \x7d"

def inlineItems : List Value → List String
  | [] => []
  | v :: rest => v.inline :: inlineItems rest

/-- Each entry as it is written, with its rank. -/
def inlineEntries : List (String × Value) → List (Nat × String)
  | [] => []
  | (name, v) :: rest =>
    (v.rank, String.ofList (keyForm name.toList) ++ " = " ++ v.inline) :: inlineEntries rest

end

/-- The text that a value stands for. -/
def Value.text : Value → String
  | .string s => s
  | .float x => x.text
  | v => v.inline

end RuleGraph.Toml
