import RuleGraph.Toml.Document
import RuleGraph.Toml.Scalar

/-!
# Reading configuration texts

`Toml.parse?` reads the statements of a text and builds the table that they describe. Arrays and
tables between braces nest at most 79 deep, and a key has at most 79 parts.
-/
namespace RuleGraph.Toml

def skipSpaces (cs : List Char) : List Char := cs.dropWhile isSpace

/-- Blanks, line breaks and comments, as they may stand between the items of an array. -/
def skipLoose (inComment : Bool) : List Char → List Char
  | [] => []
  | '\n' :: cs => skipLoose false cs
  | '\r' :: '\n' :: cs => skipLoose false cs
  | c :: cs =>
    if inComment then (if isPlain c then skipLoose true cs else c :: cs)
    else if isSpace c then skipLoose false cs
    else if c = '#' then skipLoose true cs
    else c :: cs

/-- The text behind the end of the line; blanks and a comment may stand in front of the end. -/
def lineEnd? (cs : List Char) : Option (List Char) :=
  let rest :=
    match skipSpaces cs with
    | '#' :: comment => comment.dropWhile isPlain
    | rest => rest
  match rest with
  | [] => some []
  | '\n' :: rest => some rest
  | '\r' :: '\n' :: rest => some rest
  | _ => none

def isBare (c : Char) : Bool :=
  ('A' ≤ c && c ≤ 'Z') || ('a' ≤ c && c ≤ 'z') || ('0' ≤ c && c ≤ '9') || c == '-' || c == '_'

def keyPart? : List Char → Option (String × List Char)
  | '"' :: cs => text (basic? cs)
  | '\x27' :: cs => text (literal? cs)
  | cs =>
    let bare := cs.takeWhile isBare
    if bare.isEmpty then none else some (String.ofList bare, cs.dropWhile isBare)

/-- The parts of a dotted key, with blanks around each of them. The number bounds the parts. -/
def keyParts? : Nat → List Char → Option (List String × List Char)
  | 0, _ => none
  | more + 1, cs =>
    match keyPart? (skipSpaces cs) with
    | none => none
    | some (part, rest) =>
      match skipSpaces rest with
      | '.' :: rest => (keyParts? more rest).map fun (parts, rest) => (part :: parts, rest)
      | rest => some ([part], rest)

def mostNested : Nat := 79

def key? (cs : List Char) : Option (KeyPath × List Char) :=
  match keyParts? mostNested cs with
  | none => none
  | some (parts, rest) => parts.getLast?.map fun last => (⟨parts.dropLast, last⟩, rest)

mutual

/-- One value at the front of a text. `depth` bounds the nesting, `fuel` the number of steps. -/
def value? : (fuel depth : Nat) → List Char → Option (Value × List Char)
  | 0, _, _ => none
  | fuel + 1, depth, cs =>
    match cs with
    | '"' :: '"' :: '"' :: rest =>
      (text (basicLines? false (dropLineBreak rest))).map fun (s, rest) => (.string s, rest)
    | '"' :: rest => (text (basic? rest)).map fun (s, rest) => (.string s, rest)
    | '\x27' :: '\x27' :: '\x27' :: rest =>
      (text (literalLines? (dropLineBreak rest))).map fun (s, rest) => (.string s, rest)
    | '\x27' :: rest => (text (literal? rest)).map fun (s, rest) => (.string s, rest)
    | 't' :: 'r' :: 'u' :: 'e' :: rest => some (.boolean true, rest)
    | 'f' :: 'a' :: 'l' :: 's' :: 'e' :: rest => some (.boolean false, rest)
    | '[' :: rest =>
      match depth with
      | 0 => none
      | depth + 1 => (items? fuel depth rest).map fun (vs, rest) => (.array vs, rest)
    | '\x7b' :: rest =>
      match depth with
      | 0 => none
      | depth + 1 =>
        match skipSpaces rest with
        | '\x7d' :: rest => some (.table [], rest)
        | rest =>
          match entries? fuel depth rest with
          | none => none
          | some (entries, rest) => (ofEntries? entries).map fun v => (v, rest)
    | _ => number? cs

/-- The items of an array up to its end; the last one may be followed by a comma. -/
def items? : (fuel depth : Nat) → List Char → Option (List Value × List Char)
  | 0, _, _ => none
  | fuel + 1, depth, cs =>
    match skipLoose false cs with
    | ']' :: rest => some ([], rest)
    | rest =>
      match value? fuel depth rest with
      | none => none
      | some (v, rest) =>
        match skipLoose false rest with
        | ',' :: rest => (items? fuel depth rest).map fun (vs, rest) => (v :: vs, rest)
        | ']' :: rest => some ([v], rest)
        | _ => none

/-- The entries between braces up to the end; no comma follows the last one. -/
def entries? : (fuel depth : Nat) → List Char → Option (List (KeyPath × Value) × List Char)
  | 0, _, _ => none
  | fuel + 1, depth, cs =>
    match key? cs with
    | some (path, '=' :: rest) =>
      match value? fuel depth (skipSpaces rest) with
      | none => none
      | some (v, rest) =>
        match skipSpaces rest with
        | ',' :: rest => (entries? fuel depth rest).map fun (es, rest) => ((path, v) :: es, rest)
        | '\x7d' :: rest => some ([(path, v)], rest)
        | _ => none
    | _ => none

end

/-- One statement at the front of a text that holds one, with the end of its line. -/
def statement? (cs : List Char) : Option (Statement × List Char) :=
  match cs with
  | '[' :: '[' :: rest =>
    match key? rest with
    | some (path, ']' :: ']' :: rest) => (lineEnd? rest).map fun rest => (.tables path, rest)
    | _ => none
  | '[' :: rest =>
    match key? rest with
    | some (path, ']' :: rest) => (lineEnd? rest).map fun rest => (.table path, rest)
    | _ => none
  | _ =>
    match key? cs with
    | some (path, '=' :: rest) =>
      match value? (2 * cs.length + 2) mostNested (skipSpaces rest) with
      | none => none
      | some (v, rest) => (lineEnd? rest).map fun rest => (.entry path v, rest)
    | _ => none

/-- The statements of a text. Each step takes at least one character. -/
def statements? : Nat → List Char → Option (List Statement)
  | 0, _ => none
  | fuel + 1, cs =>
    match skipSpaces cs with
    | [] => some []
    | '\n' :: rest => statements? fuel rest
    | '\r' :: '\n' :: rest => statements? fuel rest
    | '#' :: rest =>
      match lineEnd? ('#' :: rest) with
      | none => none
      | some rest => statements? fuel rest
    | rest =>
      match statement? rest with
      | none => none
      | some (s, rest) => (statements? fuel rest).map fun ss => s :: ss

/-- The table that a configuration text describes. A byte order mark in front does not count. -/
def parse? (source : String) : Option (List (String × Value)) :=
  let cs :=
    match source.toList with
    | '\ufeff' :: cs => cs
    | cs => cs
  match statements? (cs.length + 1) cs with
  | none => none
  | some statements => ofStatements? statements

end RuleGraph.Toml
