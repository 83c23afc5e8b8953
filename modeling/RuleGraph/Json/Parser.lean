import RuleGraph.Json.Value
import RuleGraph.Decimal.Reading

/-!
# Reading payload values

`Json.parse?` reads one value with nothing but blanks around it. Objects and arrays nest at most
127 deep. A number with a point or an exponent, or too large for 64 bits, is read by rounding its
leading digits and scaling the result by one power of ten.
-/
namespace RuleGraph.Json

def isJsonBlank (c : Char) : Bool := c == ' ' || c == '\t' || c == '\n' || c == '\r'

def skipBlanks (cs : List Char) : List Char := cs.dropWhile isJsonBlank

def hexValue? (c : Char) : Option Nat :=
  if '0' ≤ c && c ≤ '9' then some (c.toNat - '0'.toNat)
  else if 'a' ≤ c && c ≤ 'f' then some (c.toNat - 'a'.toNat + 10)
  else if 'A' ≤ c && c ≤ 'F' then some (c.toNat - 'A'.toNat + 10)
  else none

/-- The number that four hexadecimal digits make. -/
def unit? (a b c d : Char) : Option Nat :=
  match hexValue? a, hexValue? b, hexValue? c, hexValue? d with
  | some a, some b, some c, some d => some (((a * 16 + b) * 16 + c) * 16 + d)
  | _, _, _, _ => none

def shortEscape? : Char → Option Char
  | '"' => some '"'
  | '\\' => some '\\'
  | '/' => some '/'
  | 'b' => some (Char.ofNat 8)
  | 'f' => some (Char.ofNat 12)
  | 'n' => some '\n'
  | 'r' => some '\r'
  | 't' => some '\t'
  | _ => none

/-- The characters of a string behind its opening quote, and the text behind the closing one. -/
def characters? : List Char → Option (List Char × List Char)
  | [] => none
  | '"' :: cs => some ([], cs)
  | '\\' :: 'u' :: a :: b :: c :: d :: '\\' :: 'u' :: e :: f :: g :: h :: cs =>
    match unit? a b c d with
    | none => none
    | some n =>
      if n < 0xD800 || 0xE000 ≤ n then
        (characters? ('\\' :: 'u' :: e :: f :: g :: h :: cs)).map fun (s, r) =>
          (Char.ofNat n :: s, r)
      else if 0xDC00 ≤ n then none
      else match unit? e f g h with
        | none => none
        | some m =>
          if 0xDC00 ≤ m && m < 0xE000 then
            (characters? cs).map fun (s, r) =>
              (Char.ofNat (0x10000 + (n - 0xD800) * 0x400 + (m - 0xDC00)) :: s, r)
          else none
  | '\\' :: 'u' :: a :: b :: c :: d :: cs =>
    match unit? a b c d with
    | none => none
    | some n =>
      if n < 0xD800 || 0xE000 ≤ n then (characters? cs).map fun (s, r) => (Char.ofNat n :: s, r)
      else none
  | '\\' :: c :: cs =>
    match shortEscape? c with
    | none => none
    | some m => (characters? cs).map fun (s, r) => (m :: s, r)
  | '\\' :: [] => none
  | c :: cs => if c.toNat < 32 then none else (characters? cs).map fun (s, r) => (c :: s, r)

/-- Append decimal digits to a 64-bit number while it fits: the number, how many digits it took,
and how many were left. -/
def appendDigits (n : Nat) : List Char → Nat × Nat × Nat
  | [] => (n, 0, 0)
  | c :: cs =>
    let m := 10 * n + Decimal.digitValue c
    if Nat.pow 2 64 ≤ m then (n, 0, cs.length + 1)
    else
      let (r, taken, left) := appendDigits m cs
      (r, taken + 1, left)

/-- `x` · 10^`e` with one rounding for each power of ten up to 10^308; none when the result is too
large to be finite. -/
def scale (x : Binary64) (e : Int) : Nat → Option Binary64
  | 0 => some x
  | fuel + 1 =>
    if e.natAbs ≤ 308 then
      let power := Binary64.ofNat (Nat.pow 10 e.natAbs)
      if 0 ≤ e then
        let y := x.mul power
        if y.isFinite then some y else none
      else some (x.div power)
    else if x.isZero then some x
    else if 0 ≤ e then none
    else scale (x.div (Binary64.ofNat (Nat.pow 10 308))) (e + 308) fuel

/-- The value of a number from its parts: sign, whole digits, digits behind the point, exponent. -/
def numberOf (negative : Bool) (whole : List Char) (fraction : Option (List Char))
    (exponent : Option Int) : Option Json :=
  let (n, _, dropped) := appendDigits 0 whole
  match fraction, exponent with
  | none, none =>
    if dropped = 0 && !negative then some (.int n)
    else if dropped = 0 && n ≠ 0 && n ≤ Nat.pow 2 63 then some (.int (-(n : Int)))
    else (scale (Binary64.ofNat n) dropped 8).map fun x => .float (if negative then x.neg else x)
  | _, _ =>
    let (m, taken, _) := appendDigits n (fraction.getD [])
    let e : Int := (dropped : Int) - taken + exponent.getD 0
    (scale (Binary64.ofNat m) e 8).map fun x => .float (if negative then x.neg else x)

/-- The digits behind a point, if there is one; there must be a digit then. -/
def fraction? : List Char → Option (Option (List Char) × List Char)
  | '.' :: cs =>
    let digits := cs.takeWhile Decimal.isDigit
    if digits.isEmpty then none else some (some digits, cs.dropWhile Decimal.isDigit)
  | cs => some (none, cs)

def power? : List Char → Option (Option Int × List Char)
  | [] => some (none, [])
  | c :: cs =>
    if c = 'e' || c = 'E' then
      let (negative, rest) := Decimal.sign cs
      let digits := rest.takeWhile Decimal.isDigit
      if digits.isEmpty then none
      else
        let n := Decimal.natOf digits
        some (some (if negative then -(n : Int) else n), rest.dropWhile Decimal.isDigit)
    else some (none, c :: cs)

/-- The parts of a number at the front of a text: sign, whole digits, digits behind the point and
exponent. -/
def numberParts? (cs : List Char) :
    Option ((Bool × List Char × Option (List Char) × Option Int) × List Char) :=
  let (negative, cs) :=
    match cs with
    | '-' :: rest => (true, rest)
    | _ => (false, cs)
  let whole := cs.takeWhile Decimal.isDigit
  if whole.isEmpty || (whole.head? == some '0' && whole.length ≠ 1) then none
  else
    match fraction? (cs.dropWhile Decimal.isDigit) with
    | none => none
    | some (fraction, rest) =>
      (power? rest).map fun (exponent, rest) => ((negative, whole, fraction, exponent), rest)

def number? (cs : List Char) : Option (Json × List Char) :=
  match numberParts? cs with
  | none => none
  | some ((negative, whole, fraction, exponent), rest) =>
    (numberOf negative whole fraction exponent).map fun v => (v, rest)

mutual

/-- One value at the front of a text. `depth` bounds the nesting, `fuel` the number of steps. -/
def value? : (fuel depth : Nat) → List Char → Option (Json × List Char)
  | 0, _, _ => none
  | fuel + 1, depth, cs =>
    match skipBlanks cs with
    | 'n' :: 'u' :: 'l' :: 'l' :: rest => some (.null, rest)
    | 't' :: 'r' :: 'u' :: 'e' :: rest => some (.bool true, rest)
    | 'f' :: 'a' :: 'l' :: 's' :: 'e' :: rest => some (.bool false, rest)
    | '"' :: rest => (characters? rest).map fun (s, r) => (.string (String.ofList s), r)
    | '[' :: rest =>
      match depth with
      | 0 => none
      | depth + 1 =>
        match skipBlanks rest with
        | ']' :: rest => some (.array [], rest)
        | rest => (items? fuel depth rest).map fun (vs, r) => (.array vs, r)
    | '{' :: rest =>
      match depth with
      | 0 => none
      | depth + 1 =>
        match skipBlanks rest with
        | '}' :: rest => some (.object [], rest)
        | rest => (members? fuel depth rest).map fun (ms, r) => (ofMembers ms, r)
    | rest => number? rest

def items? : (fuel depth : Nat) → List Char → Option (List Json × List Char)
  | 0, _, _ => none
  | fuel + 1, depth, cs =>
    match value? fuel depth cs with
    | none => none
    | some (v, rest) =>
      match skipBlanks rest with
      | ',' :: rest => (items? fuel depth rest).map fun (vs, r) => (v :: vs, r)
      | ']' :: rest => some ([v], rest)
      | _ => none

/-- The members of an object as they are written, repeated names included. -/
def members? : (fuel depth : Nat) → List Char → Option (List (String × Json) × List Char)
  | 0, _, _ => none
  | fuel + 1, depth, cs =>
    match skipBlanks cs with
    | '"' :: rest =>
      match characters? rest with
      | none => none
      | some (key, rest) =>
        match skipBlanks rest with
        | ':' :: rest =>
          match value? fuel depth rest with
          | none => none
          | some (v, rest) =>
            match skipBlanks rest with
            | ',' :: rest =>
              (members? fuel depth rest).map fun (ms, r) => ((String.ofList key, v) :: ms, r)
            | '}' :: rest => some ([(String.ofList key, v)], rest)
            | _ => none
        | _ => none
    | _ => none

end

/-- The text behind the closing quote of a string whose value does not matter: an escape by number
need not denote a character. -/
def skipString? : List Char → Option (List Char)
  | [] => none
  | '"' :: cs => some cs
  | '\\' :: 'u' :: a :: b :: c :: d :: cs =>
    if (unit? a b c d).isSome then skipString? cs else none
  | '\\' :: c :: cs => if (shortEscape? c).isSome then skipString? cs else none
  | '\\' :: [] => none
  | c :: cs => if c.toNat < 32 then none else skipString? cs

mutual

/-- The text behind a value that does not matter: a number may be out of range, and values may
nest to any depth. -/
def skip? : (fuel : Nat) → List Char → Option (List Char)
  | 0, _ => none
  | fuel + 1, cs =>
    match skipBlanks cs with
    | 'n' :: 'u' :: 'l' :: 'l' :: rest => some rest
    | 't' :: 'r' :: 'u' :: 'e' :: rest => some rest
    | 'f' :: 'a' :: 'l' :: 's' :: 'e' :: rest => some rest
    | '"' :: rest => skipString? rest
    | '[' :: rest =>
      match skipBlanks rest with
      | ']' :: rest => some rest
      | rest => skipItems? fuel rest
    | '{' :: rest =>
      match skipBlanks rest with
      | '}' :: rest => some rest
      | rest => skipMembers? fuel rest
    | rest => (numberParts? rest).map Prod.snd

def skipItems? : (fuel : Nat) → List Char → Option (List Char)
  | 0, _ => none
  | fuel + 1, cs =>
    match (skip? fuel cs).map skipBlanks with
    | some (',' :: rest) => skipItems? fuel rest
    | some (']' :: rest) => some rest
    | _ => none

def skipMembers? : (fuel : Nat) → List Char → Option (List Char)
  | 0, _ => none
  | fuel + 1, cs =>
    match skipBlanks cs with
    | '"' :: rest =>
      match (skipString? rest).map skipBlanks with
      | some (':' :: rest) =>
        match (skip? fuel rest).map skipBlanks with
        | some (',' :: rest) => skipMembers? fuel rest
        | some ('}' :: rest) => some rest
        | _ => none
      | _ => none
    | _ => none

end

/-- A value that is wanted, or nothing for one that does not matter. -/
def valueIf? (wanted : Bool) (fuel : Nat) (cs : List Char) : Option (Option Json × List Char) :=
  if wanted then (value? fuel 126 cs).map fun (v, rest) => (some v, rest)
  else (skip? fuel cs).map fun rest => (none, rest)

/-- The wanted members of an object behind its opening brace, as they are written. -/
def wantedMembers? (wanted : String → Bool) :
    (fuel : Nat) → List Char → Option (List (String × Json) × List Char)
  | 0, _ => none
  | fuel + 1, cs =>
    match skipBlanks cs with
    | '"' :: rest =>
      match characters? rest with
      | none => none
      | some (key, rest) =>
        let key := String.ofList key
        match skipBlanks rest with
        | ':' :: rest =>
          match valueIf? (wanted key) fuel rest with
          | none => none
          | some (v?, rest) =>
            let member := (v?.map fun v => (key, v)).toList
            match skipBlanks rest with
            | ',' :: rest =>
              (wantedMembers? wanted fuel rest).map fun (ms, r) => (member ++ ms, r)
            | '}' :: rest => some (member, rest)
            | _ => none
        | _ => none
    | _ => none

/-- The wanted members of an object that makes up the whole text, as they are written. -/
def objectMembers? (wanted : String → Bool) (text : List Char) : Option (List (String × Json)) :=
  match skipBlanks text with
  | '{' :: rest =>
    match skipBlanks rest with
    | '}' :: rest => if (skipBlanks rest).isEmpty then some [] else none
    | rest =>
      match wantedMembers? wanted (2 * text.length + 2) rest with
      | some (ms, rest) => if (skipBlanks rest).isEmpty then some ms else none
      | none => none
  | _ => none

/-- The value that a text denotes. -/
def parse? (text : List Char) : Option Json :=
  match value? (2 * text.length + 2) 127 text with
  | some (v, rest) => if (skipBlanks rest).isEmpty then some v else none
  | none => none

end RuleGraph.Json
