import RuleGraph.Toml.Value

/-!
# Strings and numbers in configuration texts

Basic strings know escapes, literal strings do not; both come in a form with three quotes on each
side that may span lines. Digits of a number may be parted by single underscores.
-/
namespace RuleGraph.Toml

/-- A character that may stand for itself in strings and comments. -/
def isPlain (c : Char) : Bool :=
  c == '\t' || (0x20 ≤ c.toNat && c.toNat != 0x7F)

def isSpace (c : Char) : Bool := c == ' ' || c == '\t'

def hexDigit? (c : Char) : Option Nat :=
  if '0' ≤ c && c ≤ '9' then some (c.toNat - '0'.toNat)
  else if 'a' ≤ c && c ≤ 'f' then some (c.toNat - 'a'.toNat + 10)
  else if 'A' ≤ c && c ≤ 'F' then some (c.toNat - 'A'.toNat + 10)
  else none

/-- The number that digits of a base denote. -/
def inBase? (base : Nat) (ds : List Char) : Option Nat :=
  ds.foldlM (fun n c =>
    match hexDigit? c with
    | some d => if d < base then some (n * base + d) else none
    | none => none) 0

/-- The character whose number the digits give; surrogates are no characters. -/
def scalar? (ds : List Char) : Option Char :=
  match inBase? 16 ds with
  | none => none
  | some n => if n < 0xD800 || (0xE000 ≤ n && n < 0x110000) then some (Char.ofNat n) else none

def escaped? : Char → Option Char
  | '"' => some '"'
  | '\\' => some '\\'
  | 'b' => some (Char.ofNat 8)
  | 'f' => some (Char.ofNat 12)
  | 'n' => some '\n'
  | 'r' => some '\r'
  | 't' => some '\t'
  | _ => none

/-- Put a character in front of what a reader gives. -/
def prepend (c : Char) (read : Option (List Char × List Char)) : Option (List Char × List Char) :=
  read.map fun (s, rest) => (c :: s, rest)

/-- The characters of a basic string behind its opening quote, and the text behind the closing
one. -/
def basic? : List Char → Option (List Char × List Char)
  | [] => none
  | '"' :: cs => some ([], cs)
  | '\\' :: 'u' :: a :: b :: c :: d :: cs =>
    match scalar? [a, b, c, d] with
    | some x => prepend x (basic? cs)
    | none => none
  | '\\' :: 'U' :: a :: b :: c :: d :: e :: f :: g :: h :: cs =>
    match scalar? [a, b, c, d, e, f, g, h] with
    | some x => prepend x (basic? cs)
    | none => none
  | '\\' :: c :: cs =>
    match escaped? c with
    | some x => prepend x (basic? cs)
    | none => none
  | c :: cs => if isPlain c then prepend c (basic? cs) else none

/-- Whether a line ends at the front of a text, blanks aside. -/
def endsLine (cs : List Char) : Bool :=
  match cs.dropWhile isSpace with
  | '\n' :: _ => true
  | '\r' :: '\n' :: _ => true
  | _ => false

/-- The characters of a basic string of several lines behind its opening quotes. Up to two quotes
may stand in front of the closing ones. A backslash at the end of a line joins it with the next
line that is not blank; `joining` says that this goes on. -/
def basicLines? (joining : Bool) : List Char → Option (List Char × List Char)
  | [] => none
  | '"' :: '"' :: '"' :: '"' :: '"' :: cs => some (['"', '"'], cs)
  | '"' :: '"' :: '"' :: '"' :: cs => some (['"'], cs)
  | '"' :: '"' :: '"' :: cs => some ([], cs)
  | '\r' :: '\n' :: cs =>
    if joining then basicLines? true cs else prepend '\n' (basicLines? false cs)
  | '\n' :: cs => if joining then basicLines? true cs else prepend '\n' (basicLines? false cs)
  | '\\' :: 'u' :: a :: b :: c :: d :: cs =>
    match scalar? [a, b, c, d] with
    | some x => prepend x (basicLines? false cs)
    | none => none
  | '\\' :: 'U' :: a :: b :: c :: d :: e :: f :: g :: h :: cs =>
    match scalar? [a, b, c, d, e, f, g, h] with
    | some x => prepend x (basicLines? false cs)
    | none => none
  | '\\' :: c :: cs =>
    if endsLine (c :: cs) then basicLines? true (c :: cs)
    else match escaped? c with
      | some x => prepend x (basicLines? false cs)
      | none => none
  | c :: cs =>
    if joining && isSpace c then basicLines? true cs
    else if isPlain c then prepend c (basicLines? false cs)
    else none

/-- The characters of a literal string behind its opening quote. -/
def literal? : List Char → Option (List Char × List Char)
  | [] => none
  | '\x27' :: cs => some ([], cs)
  | c :: cs => if isPlain c then prepend c (literal? cs) else none

/-- The characters of a literal string of several lines behind its opening quotes. -/
def literalLines? : List Char → Option (List Char × List Char)
  | [] => none
  | '\x27' :: '\x27' :: '\x27' :: '\x27' :: '\x27' :: cs => some (['\x27', '\x27'], cs)
  | '\x27' :: '\x27' :: '\x27' :: '\x27' :: cs => some (['\x27'], cs)
  | '\x27' :: '\x27' :: '\x27' :: cs => some ([], cs)
  | '\r' :: '\n' :: cs => prepend '\n' (literalLines? cs)
  | '\n' :: cs => prepend '\n' (literalLines? cs)
  | c :: cs => if isPlain c then prepend c (literalLines? cs) else none

/-- A line break just behind the opening quotes of a string of several lines does not count. -/
def dropLineBreak : List Char → List Char
  | '\n' :: cs => cs
  | '\r' :: '\n' :: cs => cs
  | cs => cs

def text (read : Option (List Char × List Char)) : Option (String × List Char) :=
  read.map fun (s, rest) => (String.ofList s, rest)

/-- Digits at the front of a text, where an underscore may stand between two digits; the
underscores are dropped. -/
def digits (isDigit : Char → Bool) : List Char → List Char × List Char
  | [] => ([], [])
  | c :: '_' :: d :: cs =>
    if isDigit c && isDigit d then
      let (ds, rest) := digits isDigit (d :: cs)
      (c :: ds, rest)
    else if isDigit c then ([c], '_' :: d :: cs)
    else ([], c :: '_' :: d :: cs)
  | c :: cs =>
    if isDigit c then
      let (ds, rest) := digits isDigit cs
      (c :: ds, rest)
    else ([], c :: cs)

/-- Decimal digits of a whole number; a zero in front stands alone. -/
def wholeDigits : List Char → List Char × List Char
  | '0' :: cs => (['0'], cs)
  | cs => digits Decimal.isDigit cs

/-- Digits behind a point, if there is one; there must be a digit then. -/
def fractionDigits? : List Char → Option (Option (List Char) × List Char)
  | '.' :: cs =>
    let (ds, rest) := digits Decimal.isDigit cs
    if ds.isEmpty then none else some (some ds, rest)
  | cs => some (none, cs)

def exponent? : List Char → Option (Option Int × List Char)
  | [] => some (none, [])
  | c :: cs =>
    if c = 'e' || c = 'E' then
      let (negative, cs) := Decimal.sign cs
      let (ds, rest) := digits Decimal.isDigit cs
      if ds.isEmpty then none
      else
        let n := Decimal.natOf ds
        some (some (if negative then -(n : Int) else n), rest)
    else some (none, c :: cs)

/-- A whole number that 64 bits with sign can hold. -/
def integer? (negative : Bool) (n : Nat) : Option Value :=
  if negative then (if n ≤ Nat.pow 2 63 then some (.integer (-(n : Int))) else none)
  else if n < Nat.pow 2 63 then some (.integer n)
  else none

/-- A number with a point or an exponent. One that is too large for a finite value is refused,
unless it is negative. -/
def float? (negative : Bool) (whole fraction : List Char) (exponent : Int) : Option Value :=
  match Binary64.ofDecimal negative (Decimal.natOf (whole ++ fraction))
      (exponent - fraction.length) with
  | .infinite false => none
  | x => some (.float x)

def decimal? (cs : List Char) : Option (Value × List Char) :=
  let (negative, unsigned) := Decimal.sign cs
  match unsigned with
  | 'i' :: 'n' :: 'f' :: rest => some (.float (.infinite negative), rest)
  | 'n' :: 'a' :: 'n' :: rest => some (.float .nan, rest)
  | _ =>
    let (whole, rest) := wholeDigits unsigned
    if whole.isEmpty then none
    else match fractionDigits? rest with
      | none => none
      | some (fraction, rest) =>
        match exponent? rest with
        | none => none
        | some (exponent, rest) =>
          let value :=
            match fraction, exponent with
            | none, none => integer? negative (Decimal.natOf whole)
            | _, _ => float? negative whole (fraction.getD []) (exponent.getD 0)
          value.map fun v => (v, rest)

/-- A whole number behind the mark of its base. -/
def based? (base : Nat) (cs : List Char) : Option (Value × List Char) :=
  let isDigit (c : Char) : Bool :=
    match hexDigit? c with
    | some d => decide (d < base)
    | none => false
  let (ds, rest) := digits isDigit cs
  if ds.isEmpty then none
  else match inBase? base ds with
    | none => none
    | some n => (integer? false n).map fun v => (v, rest)

/-- A moment or a number at the front of a text. -/
def number? (cs : List Char) : Option (Value × List Char) :=
  match Moment.read? cs with
  | some (m, rest) => some (.moment m, rest)
  | none =>
    match cs with
    | '0' :: 'x' :: rest => based? 16 rest
    | '0' :: 'o' :: rest => based? 8 rest
    | '0' :: 'b' :: rest => based? 2 rest
    | _ => decimal? cs

end RuleGraph.Toml
