import RuleGraph.Regex.Bracket

/-!
# The reader of patterns

Reads a pattern text from left to right. Open groups wait on a stack, so every step takes at least
one character and the number of steps is bounded by the length of the text.
-/
namespace RuleGraph.Regex

open Unicode (Ranges)
open Escape (skip)

/-- What is read of a group: the branches before the last bar, and the parts behind it, both with
the last one first. -/
structure Level where
  branches : List (Deep Written) := []
  parts : List (Deep Written) := []

namespace Level

def add (l : Level) (part : Deep Written) : Level := { l with parts := part :: l.parts }

def branch (l : Level) : Deep Written := Deep.gather .empty .concat l.parts.reverse

def tree (l : Level) : Deep Written :=
  Deep.gather .empty .alternation (l.branch :: l.branches).reverse

end Level

/-- An open group: what is read outside of it, and whether blanks count there. -/
structure OpenGroup where
  kind : GroupKind
  outer : Level
  verbose : Bool

structure Reader where
  level : Level := {}
  opened : List OpenGroup := []
  verbose : Bool := false
  captures : Nat := 0
  names : List (List Char) := []

namespace Reader

def add (r : Reader) (part : Deep Written) : Reader := { r with level := r.level.add part }

/-- A decimal number with blanks around it, less than 2^32. -/
def decimal (verbose : Bool) (cs : List Char) : Option Nat × List Char :=
  let (digits, rest) := digitsOf cs.length [] (cs.dropWhile Text.isBlank)
  let n := digits.foldl (fun n c => 10 * n + (c.toNat - '0'.toNat)) 0
  (if digits.isEmpty || Nat.pow 2 32 ≤ n then none else some n, rest.dropWhile Text.isBlank)
where
  digitsOf : Nat → List Char → List Char → List Char × List Char
    | 0, done, cs => (done.reverse, cs)
    | fuel + 1, done, cs =>
      match cs with
      | [] => (done.reverse, [])
      | c :: rest =>
        if c.isDigit then digitsOf fuel (c :: done) (skip verbose rest)
        else (done.reverse, c :: rest)

/-- The bounds of a counted repetition behind its opening brace. -/
def bounds (verbose : Bool) (cs : List Char) : Option (Nat × Option Nat × List Char) :=
  match decimal verbose (skip verbose cs) with
  | (some least, '\x7d' :: rest) => some (least, some least, rest)
  | (some least, ',' :: rest) =>
    match skip verbose rest with
    | '\x7d' :: rest => some (least, none, rest)
    | rest =>
      match decimal verbose rest with
      | (some most, '\x7d' :: rest) =>
        if least ≤ most then some (least, some most, rest) else none
      | _ => none
  | _ => none

/-- Repeat the part read last, which a change of flags is not. A question mark behind the operator
makes it lazy. -/
def repeatLast (r : Reader) (least : Nat) (most : Option Nat) (cs : List Char) :
    Option (Reader × List Char) :=
  match r.level.parts with
  | [] => none
  | part :: parts =>
    let again (greedy : Bool) : Reader :=
      { r with level := { r.level with
          parts := part.wrap (.repetition least most greedy) :: parts } }
    match part.tree, cs with
    | .flags _, _ => none
    | _, '?' :: rest => some (again false, rest)
    | _, cs => some (again true, cs)

def flag? : Char → Option Flag
  | 'i' => some .ignoreCase
  | 'm' => some .multiLine
  | 's' => some .dotAll
  | 'U' => some .swapGreed
  | 'u' => some .unicode
  | 'R' => some .crlf
  | 'x' => some .verbose
  | _ => none

/-- Flag letters up to the character that ends them. No letter stands twice, one dash at most
stands in front of the letters to be switched off, and it stands in front of one. -/
def flagLetters (value dangling : Bool) (done : FlagChange) :
    List Char → Option (FlagChange × List Char)
  | [] => none
  | c :: cs =>
    if c = ')' || c = ':' then
      if dangling then none else some (done.reverse, c :: cs)
    else if c = '-' then
      if value then flagLetters false true done cs else none
    else match flag? c with
      | some f =>
        if done.any fun entry => entry.1 == f then none
        else flagLetters value false ((f, value) :: done) cs
      | none => none

/-- Whether blanks count for nothing after a change of flags. -/
def verboseAfter (verbose : Bool) (change : FlagChange) : Bool :=
  match change.find? fun entry => entry.1 == .verbose with
  | some (_, value) => value
  | none => verbose

/-- Letters that version 17 of the Unicode standard adds to those of version 16. -/
def newLetters : Ranges :=
  [(0x88F, 0x88F), (0xC5C, 0xC5C), (0xCDC, 0xCDC), (0xA7CE, 0xA7CF), (0xA7D2, 0xA7D2),
   (0xA7D4, 0xA7D4), (0xA7F1, 0xA7F1), (0x10940, 0x10959), (0x10EC5, 0x10EC7), (0x10EFA, 0x10EFB),
   (0x11B60, 0x11B67), (0x11DB0, 0x11DDB), (0x16EA0, 0x16EB8), (0x16EBB, 0x16ED3),
   (0x16FF2, 0x16FF6), (0x187F8, 0x187FF), (0x18D09, 0x18D1E), (0x18D80, 0x18DF2),
   (0x1E6C0, 0x1E6DE), (0x1E6E0, 0x1E6F5), (0x1E6FE, 0x1E6FF), (0x2B73A, 0x2B73F),
   (0x2CEA2, 0x2CEAD), (0x323B0, 0x33479)]

/-- Numbers that version 17 of the Unicode standard adds to those of version 16. -/
def newNumbers : Ranges := [(0x11DE0, 0x11DE9)]

/-- The names of groups begin with a letter of version 17 of the standard or an underscore. -/
def isNameStart (c : Char) : Bool :=
  c = '_' || Ranges.contains Unicode.Property.alphabetic c || Ranges.contains newLetters c

/-- Numbers, points and brackets may follow. -/
def isNamePart (c : Char) : Bool :=
  isNameStart c || c = '.' || c = '[' || c = ']' ||
    Ranges.contains Unicode.Category.decimalNumbers c ||
    Ranges.contains Unicode.Category.letterNumbers c ||
    Ranges.contains Unicode.Category.otherNumbers c || Ranges.contains newNumbers c

/-- The name of a group up to its closing angle bracket, and the text behind. -/
def groupName (cs : List Char) : Option (List Char × List Char) :=
  match cs.takeWhile (· != '>'), cs.dropWhile (· != '>') with
  | c :: more, _ :: rest =>
    if isNameStart c && more.all isNamePart then some (c :: more, rest) else none
  | _, _ => none

def openGroup (r : Reader) (kind : GroupKind) (verbose : Bool) : Reader :=
  { r with level := {}, opened := ⟨kind, r.level, r.verbose⟩ :: r.opened, verbose := verbose }

def openCapture (r : Reader) : Reader :=
  { r.openGroup (.capture (r.captures + 1)) r.verbose with captures := r.captures + 1 }

def openNamed (r : Reader) (cs : List Char) : Option (Reader × List Char) :=
  match groupName cs with
  | some (name, rest) =>
    if r.names.contains name then none
    else some ({ r.openCapture with names := name :: r.names }, rest)
  | none => none

/-- A group behind its opening parenthesis, or a change of flags. Groups that only look ahead or
behind do not exist. -/
def group (r : Reader) (cs : List Char) : Option (Reader × List Char) :=
  match skip r.verbose cs with
  | '?' :: 'P' :: '<' :: rest => openNamed r rest
  | '?' :: '<' :: rest => openNamed r rest
  | '?' :: rest =>
    match flagLetters true false [] rest with
    | some ([], ')' :: _) => none
    | some (change, ')' :: rest) =>
      some ({ r.add ⟨.flags change, 0⟩ with verbose := verboseAfter r.verbose change }, rest)
    | some (change, _ :: rest) =>
      some (r.openGroup (.flagged change) (verboseAfter r.verbose change), rest)
    | _ => none
  | rest => some (r.openCapture, rest)

def closeGroup (r : Reader) : Option Reader :=
  match r.opened with
  | [] => none
  | g :: opened =>
    some { r with
      level := g.outer.add (r.level.tree.wrap (.group g.kind)), opened := opened,
      verbose := g.verbose }

/-- One step over a text that begins with something that counts. -/
def step (r : Reader) : List Char → Option (Reader × List Char)
  | [] => some (r, [])
  | c :: cs =>
    match c with
    | '(' => r.group cs
    | ')' => r.closeGroup.map fun r => (r, cs)
    | '|' => some ({ r with level := ⟨r.level.branch :: r.level.branches, []⟩ }, cs)
    | '[' => (Bracket.read r.verbose cs).map fun (d, rest) => (r.add ⟨.set d.tree, d.depth⟩, rest)
    | '?' => r.repeatLast 0 (some 1) cs
    | '*' => r.repeatLast 0 none cs
    | '+' => r.repeatLast 1 none cs
    | '\x7b' =>
      match bounds r.verbose cs with
      | some (least, most, rest) => r.repeatLast least most (skip r.verbose rest)
      | none => none
    | '\\' => (Escape.read r.verbose cs).map fun (w, rest) => (r.add ⟨w, 0⟩, rest)
    | '.' => some (r.add ⟨.dot, 0⟩, cs)
    | '^' => some (r.add ⟨.assertion .lineStart, 0⟩, cs)
    | '$' => some (r.add ⟨.assertion .lineEnd, 0⟩, cs)
    | c => some (r.add ⟨.literal ⟨c, false⟩, 0⟩, cs)

def run : Nat → Reader → List Char → Option Reader
  | 0, _, _ => none
  | fuel + 1, r, cs =>
    match skip r.verbose cs with
    | [] => some r
    | cs =>
      match r.step cs with
      | some (r, rest) => run fuel r rest
      | none => none

end Reader

/-- A pattern with more levels is refused. -/
def Written.mostLevels : Nat := 250

/-- The tree of a pattern text, and the number of its capturing groups. -/
def Written.parse? (text : List Char) : Option (Written × Nat) :=
  match Reader.run (text.length + 1) {} text with
  | none => none
  | some r =>
    let tree := r.level.tree
    if r.opened.isEmpty && tree.depth ≤ mostLevels then some (tree.tree, r.captures) else none

end RuleGraph.Regex
