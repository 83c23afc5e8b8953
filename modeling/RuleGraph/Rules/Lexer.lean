import RuleGraph.Rules.SyntaxError
import RuleGraph.Decimal.Reading

/-!
# Tokens of a text

`tokenize` divides a rule text into tokens. Blanks and comments, which run from `#` to the end of
the line, stand between tokens and belong to none. Every scanning function gives the characters
it took and the characters it left, and the two make up what it was given.
-/
namespace RuleGraph.Lexer

/-- A token's kind, the characters it is written with, and the text behind it. -/
structure Lexeme where
  kind : Token.Kind
  taken : List Char
  rest : List Char
  deriving Repr

def isSpace (c : Char) : Bool := c == ' ' || c == '\t' || c == '\r' || c == '\n'

def isWordStart (c : Char) : Bool := ('a' ≤ c && c ≤ 'z') || ('A' ≤ c && c ≤ 'Z') || c == '_'

def isWordPart (c : Char) : Bool := isWordStart c || Decimal.isDigit c

/-- The blanks and comments in front of a text, and the text behind them. The flag says that the
text begins inside a comment. -/
def spanTrivia : Bool → List Char → List Char × List Char
  | _, [] => ([], [])
  | true, c :: cs =>
    let (taken, rest) := spanTrivia (c != '\n') cs
    (c :: taken, rest)
  | false, c :: cs =>
    if isSpace c || c == '#' then
      let (taken, rest) := spanTrivia (c == '#') cs
      (c :: taken, rest)
    else ([], c :: cs)

/-- The text of a string behind its opening quote, with what was taken and what is left. A
backslash gives quote, backslash, line feed or tab a meaning, and stands for itself elsewhere. -/
def scanString : List Char → Option (List Char × List Char × List Char)
  | [] => none
  | '"' :: cs => some ([], ['"'], cs)
  | '\\' :: [] => none
  | '\\' :: c :: cs =>
    (scanString cs).map fun (value, taken, rest) =>
      let meaning :=
        if c = '"' then ['"'] else if c = '\\' then ['\\'] else if c = 'n' then ['\n']
        else if c = 't' then ['\t'] else ['\\', c]
      (meaning ++ value, '\\' :: c :: taken, rest)
  | c :: cs =>
    (scanString cs).map fun (value, taken, rest) => (c :: value, c :: taken, rest)

/-- The characters of a number behind its sign: digits, points, and, once digits were counted, the
letter of an exponent with its sign. Gives what was taken and what is left, and how many digits
there were, counted on from the given number in 32 bits with a sign, which wrap around. Whether the
characters make a number is decided afterwards. -/
def spanNumber : Int32 → List Char → List Char × List Char × Int32
  | digits, [] => ([], [], digits)
  | digits, c :: cs =>
    if Decimal.isDigit c then
      let (taken, rest) := spanNumber (digits + 1) cs
      (c :: taken, rest)
    else if c = '.' then
      let (taken, rest) := spanNumber digits cs
      (c :: taken, rest)
    else if (c = 'e' || c = 'E') && 0 < digits then
      match cs with
      | [] => ([c], [], digits)
      | d :: ds =>
        if d = '-' || d = '+' then
          let (taken, rest) := spanNumber digits ds
          (c :: d :: taken, rest)
        else
          let (taken, rest) := spanNumber digits (d :: ds)
          (c :: taken, rest)
    else ([], c :: cs, digits)

def wordKind (word : List Char) : Token.Kind :=
  if Decimal.lower word = ['i', 's'] then .arrow
  else if Decimal.lower word = ['f', 'r', 'o', 'm'] then .fromWord
  else .name (String.ofList word)

def mark? : Char → Option Token.Kind
  | '[' => some .leftBracket
  | ']' => some .rightBracket
  | '|' => some .pipe
  | ',' => some .comma
  | ':' => some .colon
  | ';' => some .semicolon
  | '(' => some .leftParen
  | ')' => some .rightParen
  | '=' => some .equals
  | '<' => some .less
  | '>' => some .greater
  | '!' => some .bang
  | '@' => some .atSign
  | _ => none

/-- The characters at the front of `c :: cs` that are read as a number, the text behind, and the
number of digits. -/
def spanNumeral (c : Char) (cs : List Char) : List Char × List Char × Int32 :=
  if c = '-' || c = '+' then (c :: (spanNumber 0 cs).1, (spanNumber 0 cs).2)
  else spanNumber 0 (c :: cs)

/-- The number at the front of a text that begins with a sign, a point or a digit. -/
def number (c : Char) (cs : List Char) : Except SyntaxFault Lexeme :=
  let (taken, rest, digits) := spanNumeral c cs
  if digits = 0 then .error (.invalidNumber (String.ofList taken))
  else match Binary64.read? taken with
    | some x => .ok ⟨.number x, taken, rest⟩
    | none => .error (.invalidNumber (String.ofList taken))

/-- The token at the front of the text `c :: cs`. -/
def lexeme (c : Char) (cs : List Char) : Except SyntaxFault Lexeme :=
  if c = '"' then
    match scanString cs with
    | some (value, taken, rest) => .ok ⟨.text (String.ofList value), '"' :: taken, rest⟩
    | none => .error .unterminatedString
  else if c = '=' && cs.head? == some '>' then .ok ⟨.arrow, ['=', '>'], cs.drop 1⟩
  else if c = '-' || c = '+' || c = '.' || Decimal.isDigit c then number c cs
  else if isWordStart c then
    .ok ⟨wordKind (c :: cs.takeWhile isWordPart), c :: cs.takeWhile isWordPart,
      cs.dropWhile isWordPart⟩
  else match mark? c with
    | some kind => .ok ⟨kind, [c], cs⟩
    | none => .error (.unexpectedCharacter c)

theorem spanTrivia_append (comment : Bool) (cs : List Char) :
    (spanTrivia comment cs).1 ++ (spanTrivia comment cs).2 = cs := by
  induction cs generalizing comment with
  | nil => cases comment <;> rfl
  | cons c cs ih =>
    cases comment
    · simp only [spanTrivia]
      split
      · simp [ih]
      · rfl
    · simp [spanTrivia, ih]

theorem scanString_append {cs value taken rest : List Char}
    (h : scanString cs = some (value, taken, rest)) : taken ++ rest = cs := by
  fun_induction scanString cs generalizing value taken rest with
  | case1 => simp at h
  | case2 cs =>
    simp only [Option.some.injEq, Prod.mk.injEq] at h
    obtain ⟨-, rfl, rfl⟩ := h
    rfl
  | case3 => simp at h
  | case4 c cs ih =>
    obtain ⟨⟨v, t, r⟩, hs, he⟩ := Option.map_eq_some_iff.1 h
    simp only [Prod.mk.injEq] at he
    obtain ⟨-, rfl, rfl⟩ := he
    simp [ih hs]
  | case5 c cs _ _ _ ih =>
    obtain ⟨⟨v, t, r⟩, hs, he⟩ := Option.map_eq_some_iff.1 h
    simp only [Prod.mk.injEq] at he
    obtain ⟨-, rfl, rfl⟩ := he
    simp [ih hs]

theorem spanNumber_append (digits : Int32) (cs : List Char) :
    (spanNumber digits cs).1 ++ (spanNumber digits cs).2.1 = cs := by
  fun_induction spanNumber digits cs <;> simp_all

/-- The digits are counted. -/
theorem spanNumber_count (digits : Int32) (cs : List Char) :
    (spanNumber digits cs).2.2 =
      digits + Int32.ofNat ((spanNumber digits cs).1.countP Decimal.isDigit) := by
  fun_induction spanNumber digits cs with
  | case1 digits => simp
  | case2 digits c cs hdigit taken rest hspan ih =>
    rw [hspan] at ih
    rw [List.countP_cons_of_pos hdigit, Nat.add_comm, Int32.ofNat_add, ← Int32.add_assoc]
    exact ih
  | case3 digits cs hdigit taken rest hspan ih => simp_all
  | case4 digits c hdigit hpoint hletter => simp [hdigit]
  | case5 digits c hdigit hpoint hletter d ds hsign taken rest hspan ih =>
    have hd : Decimal.isDigit d = false := by
      rcases (by simpa using hsign : d = '-' ∨ d = '+') with rfl | rfl <;> decide
    simp_all
  | case6 digits c hdigit hpoint hletter d ds hsign taken rest hspan ih => simp_all
  | case7 digits c cs hdigit hpoint hletter => simp

theorem spanNumeral_append (c : Char) (cs : List Char) :
    (spanNumeral c cs).1 ++ (spanNumeral c cs).2.1 = c :: cs := by
  unfold spanNumeral
  split
  · simp [spanNumber_append]
  · exact spanNumber_append _ _

theorem spanNumeral_count (c : Char) (cs : List Char) :
    (spanNumeral c cs).2.2 = Int32.ofNat ((spanNumeral c cs).1.countP Decimal.isDigit) := by
  unfold spanNumeral
  split
  · rename_i hsign
    have hc : Decimal.isDigit c = false := by
      rcases (by simpa using hsign : c = '-' ∨ c = '+') with rfl | rfl <;> decide
    simp [spanNumber_count, hc]
  · simp [spanNumber_count]

theorem number_eq_ok_iff {c : Char} {cs : List Char} {l : Lexeme} :
    number c cs = .ok l ↔ (spanNumeral c cs).2.2 ≠ 0 ∧ ∃ x,
      Binary64.read? (spanNumeral c cs).1 = some x ∧
        l = ⟨.number x, (spanNumeral c cs).1, (spanNumeral c cs).2.1⟩ := by
  rw [number]
  obtain ⟨taken, rest, digits⟩ := spanNumeral c cs
  simp only
  split
  · simp_all
  · cases Binary64.read? taken <;> simp_all [eq_comm]

theorem number_append {c : Char} {cs : List Char} {l : Lexeme} (h : number c cs = .ok l) :
    l.taken ++ l.rest = c :: cs := by
  obtain ⟨-, x, -, rfl⟩ := number_eq_ok_iff.mp h
  exact spanNumeral_append c cs

theorem number_taken_ne_nil {c : Char} {cs : List Char} {l : Lexeme}
    (h : number c cs = .ok l) : l.taken ≠ [] := by
  obtain ⟨hdigits, x, -, rfl⟩ := number_eq_ok_iff.mp h
  intro hnil
  apply hdigits
  rw [spanNumeral_count, show (spanNumeral c cs).1 = [] from hnil]
  rfl

/-- A token takes characters from the front of the text and loses none. -/
theorem lexeme_append {c : Char} {cs : List Char} {l : Lexeme} (h : lexeme c cs = .ok l) :
    l.taken ++ l.rest = c :: cs := by
  unfold lexeme at h
  split at h
  · split at h
    · rename_i hc _ _ _ _ hs
      cases h
      simp [scanString_append hs, hc]
    · cases h
  · split at h
    · rename_i hc
      cases h
      cases cs with
      | nil => simp at hc
      | cons d ds => simp at hc; simp [hc]
    · split at h
      · exact number_append h
      · split at h
        · cases h
          simp
        · split at h
          · cases h; rfl
          · cases h

theorem lexeme_taken_ne_nil {c : Char} {cs : List Char} {l : Lexeme}
    (h : lexeme c cs = .ok l) : l.taken ≠ [] := by
  unfold lexeme at h
  split at h
  · split at h
    · cases h; simp
    · cases h
  · split at h
    · cases h; simp
    · split at h
      · exact number_taken_ne_nil h
      · split at h
        · cases h; simp
        · split at h
          · cases h; simp
          · cases h

theorem lexeme_rest_lt {c : Char} {cs : List Char} {l : Lexeme} (h : lexeme c cs = .ok l) :
    l.rest.length < (c :: cs).length := by
  have happ := congrArg List.length (lexeme_append h)
  have hpos := List.length_pos_iff.2 (lexeme_taken_ne_nil h)
  simp only [List.length_append] at happ
  omega

theorem spanTrivia_rest_le (comment : Bool) (cs : List Char) :
    (spanTrivia comment cs).2.length ≤ cs.length := by
  have h := congrArg List.length (spanTrivia_append comment cs)
  simp only [List.length_append] at h
  omega

/-- The tokens of a text that begins at `pos`; the last one marks the end of the file. -/
def tokensFrom (pos : Position) (cs : List Char) : Except SyntaxError (List Token) :=
  let here := pos.after (spanTrivia false cs).1
  match _hr : (spanTrivia false cs).2 with
  | [] => .ok [⟨.endOfFile, here⟩]
  | c :: rest =>
    match _hl : lexeme c rest with
    | .error fault => .error ⟨here, fault, []⟩
    | .ok l =>
      match tokensFrom (here.after l.taken) l.rest with
      | .error e => .error e
      | .ok tokens => .ok (⟨l.kind, here⟩ :: tokens)
termination_by cs.length
decreasing_by
  have h1 := lexeme_rest_lt _hl
  have h2 := spanTrivia_rest_le false cs
  rw [_hr] at h2
  omega

end RuleGraph.Lexer

namespace RuleGraph

/-- The tokens of a rule text. -/
def tokenize (source : String) : Except SyntaxError (List Token) :=
  Lexer.tokensFrom Position.start source.toList

end RuleGraph
