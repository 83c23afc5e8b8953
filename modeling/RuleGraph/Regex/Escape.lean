import RuleGraph.Regex.Written
import RuleGraph.Text.Blank
import RuleGraph.Unicode.Query

/-!
# Escapes

What stands behind a backslash in a pattern. A reader takes a text and gives what it read and the
text behind; in verbose patterns blanks and comments may stand between the characters of an escape.
-/
namespace RuleGraph.Regex.Escape

open Unicode (Ranges)

/-- A text without the blanks and comments at its front. The flag tells that the text begins in a
comment. -/
def afterSpace : Bool → List Char → List Char
  | _, [] => []
  | true, c :: cs => afterSpace (c != '\n') cs
  | false, c :: cs =>
    if c = '#' then afterSpace true cs
    else if Text.isBlank c then afterSpace false cs
    else c :: cs

/-- What counts of a text: in verbose patterns, blanks and comments at the front do not. -/
def skip (verbose : Bool) (cs : List Char) : List Char :=
  if verbose then afterSpace false cs else cs

def hexValue? (c : Char) : Option Nat :=
  if '0' ≤ c && c ≤ '9' then some (c.toNat - '0'.toNat)
  else if 'a' ≤ c && c ≤ 'f' then some (c.toNat - 'a'.toNat + 10)
  else if 'A' ≤ c && c ≤ 'F' then some (c.toNat - 'A'.toNat + 10)
  else none

/-- The character with a code point, which surrogates do not have. -/
def charOf? (n : Nat) : Option Char :=
  if n < 0xD800 || (0xE000 ≤ n && n ≤ 0x10FFFF) then some (Char.ofNat n) else none

/-- A number of exactly so many hexadecimal digits, put behind the number `n`. -/
def fixedHex (verbose : Bool) : Nat → Nat → List Char → Option (Nat × List Char)
  | 0, n, cs => some (n, cs)
  | places + 1, n, cs =>
    match cs with
    | [] => none
    | c :: cs =>
      match hexValue? c with
      | some d => fixedHex verbose places (16 * n + d) (skip verbose cs)
      | none => none

/-- Characters up to a closing brace, and the text behind it. -/
def braced (verbose : Bool) : Nat → List Char → List Char → Option (List Char × List Char)
  | 0, _, _ => none
  | fuel + 1, done, cs =>
    match skip verbose cs with
    | [] => none
    | '\x7d' :: rest => some (done.reverse, rest)
    | c :: rest => braced verbose fuel (c :: done) rest

/-- The character that a hexadecimal escape names, behind its letter. Braces hold any number of
digits. -/
def hexEscape (verbose : Bool) (places : Nat) (cs : List Char) :
    Option (Literal × List Char) :=
  match skip verbose cs with
  | [] => none
  | '\x7b' :: cs => do
    let (digits, rest) ← braced verbose (cs.length + 1) [] cs
    if digits.isEmpty then none
    let n ← digits.foldlM (fun n c => (hexValue? c).map (16 * n + ·)) 0
    let c ← charOf? n
    return (⟨c, false⟩, skip verbose rest)
  | cs => do
    let (n, rest) ← fixedHex verbose places 0 cs
    let c ← charOf? n
    return (⟨c, places == 2⟩, rest)

/-- The set that a property class names, behind its letter: one character is the name, or a text in
braces. A query for the opposite turns a negation round. -/
def property (verbose negated : Bool) (cs : List Char) : Option (ClassTree × List Char) :=
  match skip verbose cs with
  | [] => none
  | '\x7b' :: cs => do
    let (name, rest) ← braced verbose (cs.length + 1) [] cs
    let (set, opposite) ← Unicode.Query.find? name
    return (.property (negated != opposite) set, rest)
  | '\\' :: _ => none
  | c :: cs => do
    let set ← Unicode.Query.named? [c]
    return (.property negated set, skip verbose cs)

def isBoundaryLetter (c : Char) : Bool := c.isAlpha || c = '-'

/-- The letters of a boundary's name, and the text behind them. -/
def boundaryLetters (verbose : Bool) : Nat → List Char → List Char → List Char × List Char
  | 0, done, cs => (done.reverse, cs)
  | fuel + 1, done, cs =>
    match cs with
    | [] => (done.reverse, [])
    | c :: rest =>
      if isBoundaryLetter c then boundaryLetters verbose fuel (c :: done) (skip verbose rest)
      else (done.reverse, c :: rest)

def boundary? : List Char → Option Assertion
  | ['s', 't', 'a', 'r', 't'] => some .wordStart
  | ['e', 'n', 'd'] => some .wordEnd
  | ['s', 't', 'a', 'r', 't', '-', 'h', 'a', 'l', 'f'] => some .wordStartHalf
  | ['e', 'n', 'd', '-', 'h', 'a', 'l', 'f'] => some .wordEndHalf
  | _ => none

/-- A word boundary, behind its letter. A brace opens the boundary's name if a letter or a dash
follows, and otherwise the bounds of a repetition. -/
def wordBoundary (verbose : Bool) (cs : List Char) : Option (Assertion × List Char) :=
  match cs with
  | '\x7b' :: behind =>
    match skip verbose behind with
    | [] => none
    | c :: rest =>
      if !isBoundaryLetter c then some (.wordBoundary, cs)
      else match boundaryLetters verbose (rest.length + 1) [] (c :: rest) with
        | (name, '\x7d' :: rest) => (boundary? name).map fun kind => (kind, rest)
        | _ => none
  | _ => some (.wordBoundary, cs)

/-- Characters of ASCII that are neither letters nor digits stand for themselves; the two angle
brackets have a meaning of their own. -/
def isEscapable (c : Char) : Bool :=
  c.toNat < 0x80 && !c.isAlphanum && c != '<' && c != '>'

/-- An escape, behind its backslash. -/
def read (verbose : Bool) : List Char → Option (Written × List Char)
  | [] => none
  | c :: cs =>
    let literal (n : Nat) : Option (Written × List Char) :=
      some (.literal ⟨Char.ofNat n, false⟩, cs)
    let letters (negated : Bool) (kind : LetterSet) : Option (Written × List Char) :=
      some (.set (.letters negated kind), cs)
    let assertion (kind : Assertion) : Option (Written × List Char) := some (.assertion kind, cs)
    match c with
    | 'x' => (hexEscape verbose 2 cs).map fun (l, rest) => (.literal l, rest)
    | 'u' => (hexEscape verbose 4 cs).map fun (l, rest) => (.literal l, rest)
    | 'U' => (hexEscape verbose 8 cs).map fun (l, rest) => (.literal l, rest)
    | 'p' => (property verbose false cs).map fun (t, rest) => (.set t, rest)
    | 'P' => (property verbose true cs).map fun (t, rest) => (.set t, rest)
    | 'd' => letters false .digit
    | 's' => letters false .space
    | 'w' => letters false .word
    | 'D' => letters true .digit
    | 'S' => letters true .space
    | 'W' => letters true .word
    | 'a' => literal 7
    | 'f' => literal 12
    | 't' => literal 9
    | 'n' => literal 10
    | 'r' => literal 13
    | 'v' => literal 11
    | 'A' => assertion .textStart
    | 'z' => assertion .textEnd
    | 'b' => (wordBoundary verbose cs).map fun (kind, rest) => (.assertion kind, rest)
    | 'B' => assertion .notWordBoundary
    | '<' => assertion .wordStart
    | '>' => assertion .wordEnd
    | _ => if isEscapable c then some (.literal ⟨c, false⟩, cs) else none

end RuleGraph.Regex.Escape
