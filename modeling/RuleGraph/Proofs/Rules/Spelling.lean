import Mathlib
import RuleGraph.Proofs.Rules.Sentences

/-!
# Reading undoes spelling

`Spells` says how each token may be written, and `Gap` what may stand between two of them. Tokens
that are written one behind the other, with gaps between them, are read as they were meant,
whatever spellings and gaps were chosen. A string can be read byte by byte as well: the bytes of
one character are never taken for a quote or a backslash.
-/
namespace RuleGraph.Lexer

/-! ### What may be written -/

/-- What stands between tokens: blanks, and comments with the line feed that ends them. -/
inductive Gap : List Char → Prop
  | nil : Gap []
  | blank {c : Char} {cs : List Char} (blank : c ∈ [' ', '\t', '\r', '\n']) (rest : Gap cs) :
      Gap (c :: cs)
  | comment {text cs : List Char} (line : '\n' ∉ text) (rest : Gap cs) :
      Gap ('#' :: (text ++ '\n' :: cs))

/-- Letters, digits and underscores, no digit in front. The words of the language are no names. -/
structure IsName (cs : List Char) : Prop where
  first : ∃ c rest, cs = c :: rest ∧ c.isDigit = false
  chars : ∀ c ∈ cs, c.isAlphanum = true ∨ c = '_'
  free : cs.map Char.toLower ≠ ['i', 's'] ∧ cs.map Char.toLower ≠ ['f', 'r', 'o', 'm']

def AllDigits (cs : List Char) : Prop := ∀ c ∈ cs, c.isDigit = true

inductive IsSign : List Char → Prop
  | none : IsSign []
  | plus : IsSign ['+']
  | minus : IsSign ['-']

/-- Digits, and perhaps a point in front of them, behind them or between two of them. -/
inductive IsMantissa : List Char → Prop
  | whole {ds : List Char} (ne_nil : ds ≠ []) (digits : AllDigits ds) : IsMantissa ds
  | pointed {ds es : List Char} (ne_nil : ds ++ es ≠ []) (whole : AllDigits ds)
      (fraction : AllDigits es) : IsMantissa (ds ++ '.' :: es)

inductive IsExponent : List Char → Prop
  | none : IsExponent []
  | some {c : Char} {s ds : List Char} (letter : c = 'e' ∨ c = 'E') (sign : IsSign s)
      (ne_nil : ds ≠ []) (digits : AllDigits ds) : IsExponent (c :: (s ++ ds))

inductive IsNumeral : List Char → Prop
  | parts {s m e : List Char} (sign : IsSign s) (mantissa : IsMantissa m)
      (exponent : IsExponent e) : IsNumeral (s ++ (m ++ e))

/-- A character inside a string: quotes and backslashes have a backslash in front of them. -/
def escape (c : Char) : List Char := if c = '"' ∨ c = '\\' then ['\\', c] else [c]

/-- How tokens may be written. A number has the value that is read off its spelling. -/
inductive Spells : List Char → Token.Kind → Prop
  | name {cs : List Char} (name : IsName cs) : Spells cs (.name (String.ofList cs))
  | text (value : List Char) :
      Spells ('"' :: (value.flatMap escape ++ ['"'])) (.text (String.ofList value))
  | number {cs : List Char} {x : Binary64} (numeral : IsNumeral cs)
      (value : Binary64.read? cs = some x) : Spells cs (.number x)
  | arrow : Spells ['=', '>'] .arrow
  | isWord {cs : List Char} (word : cs.map Char.toLower = ['i', 's']) : Spells cs .arrow
  | fromWord {cs : List Char} (word : cs.map Char.toLower = ['f', 'r', 'o', 'm']) :
      Spells cs .fromWord
  | less : Spells ['<'] .less
  | leftBracket : Spells ['['] .leftBracket
  | rightBracket : Spells [']'] .rightBracket
  | pipe : Spells ['|'] .pipe
  | comma : Spells [','] .comma
  | colon : Spells [':'] .colon
  | semicolon : Spells [';'] .semicolon
  | leftParen : Spells ['('] .leftParen
  | rightParen : Spells [')'] .rightParen
  | equals : Spells ['='] .equals
  | greater : Spells ['>'] .greater
  | bang : Spells ['!'] .bang
  | atSign : Spells ['@'] .atSign

/-- A token as it is written, with the gap behind it. -/
structure Written where
  kind : Token.Kind
  spelling : List Char
  gap : List Char
  spells : Spells spelling kind
  isGap : Gap gap

def Written.text (t : Written) : List Char := t.spelling ++ t.gap

/-- The digits of a token that is a number are few enough to be counted. -/
def Written.Countable (t : Written) : Prop :=
  ∀ x, t.kind = .number x → t.spelling.countP Decimal.isDigit < 2 ^ 31

/-! ### Classes of characters -/

theorem isDigit_eq (c : Char) : Decimal.isDigit c = c.isDigit := by
  simp [Decimal.isDigit, Char.isDigit, Char.le_def]

theorem isWordStart_eq (c : Char) : isWordStart c = (c.isAlpha || c == '_') := by
  simp only [isWordStart, Char.isAlpha, Char.isUpper, Char.isLower, Char.le_def]
  grind

theorem isDigit_of_isWordStart {c : Char} (h : isWordStart c = true) :
    Decimal.isDigit c = false := by
  by_cases hc : c = '_'
  · rw [hc]
    rfl
  · simp only [isWordStart, Decimal.isDigit, Char.le_def] at h ⊢
    grind

theorem isWordPart_iff {c : Char} : isWordPart c = true ↔ c.isAlphanum = true ∨ c = '_' := by
  rw [isWordPart, isWordStart_eq, isDigit_eq, Char.isAlphanum]
  simp only [Bool.or_eq_true, beq_iff_eq]
  tauto

/-- A character that may stand behind any token: a blank, or the beginning of a comment. -/
def IsGapStart (c : Char) : Prop := c ∈ [' ', '\t', '\r', '\n', '#']

instance : DecidablePred IsGapStart := fun c =>
  inferInstanceAs (Decidable (c ∈ [' ', '\t', '\r', '\n', '#']))

/-- What follows a token, and is not taken for a part of it. -/
def Parted (rest : List Char) : Prop := ∀ c ∈ rest.head?, IsGapStart c

theorem isGapStart_iff {c : Char} : IsGapStart c ↔ (isSpace c || c == '#') = true := by
  simp [IsGapStart, isSpace, or_assoc]

theorem Gap.isGapStart {cs : List Char} (h : Gap cs) : Parted cs := by
  cases h with
  | nil => simp [Parted]
  | blank hblank =>
    rintro c ⟨⟩
    exact List.mem_append_left ['#'] hblank
  | comment =>
    rintro c ⟨⟩
    exact List.mem_append_right [' ', '\t', '\r', '\n'] (List.mem_singleton.mpr rfl)

theorem IsGapStart.not_isWordPart {c : Char} (h : IsGapStart c) : isWordPart c = false := by
  simp only [IsGapStart, List.mem_cons, List.not_mem_nil, or_false] at h
  rcases h with rfl | rfl | rfl | rfl | rfl <;> decide

theorem takeWhile_parted {p : Char → Bool} {rest : List Char} (hrest : Parted rest)
    (hp : ∀ c, IsGapStart c → p c = false) : rest.takeWhile p = [] ∧ rest.dropWhile p = rest := by
  cases rest with
  | nil => exact ⟨rfl, rfl⟩
  | cons c cs =>
    have hc := hp c (hrest c rfl)
    exact ⟨by simp [hc], by simp [hc]⟩

/-! ### Gaps -/

theorem spanTrivia_comment {text cs : List Char} (hline : '\n' ∉ text) :
    spanTrivia true (text ++ '\n' :: cs) =
      (text ++ '\n' :: (spanTrivia false cs).1, (spanTrivia false cs).2) := by
  induction text with
  | nil => rfl
  | cons c text ih =>
    obtain ⟨hc, htext⟩ := not_or.mp (List.mem_cons.not.mp hline)
    have hcomment : (c != '\n') = true := by simpa using Ne.symm hc
    rw [List.cons_append, spanTrivia, hcomment, ih htext]
    rfl

/-- A gap is skipped as a whole, with the blanks and comments behind it. -/
theorem Gap.spanTrivia_append {gap : List Char} (hgap : Gap gap) (cs : List Char) :
    spanTrivia false (gap ++ cs) =
      (gap ++ (spanTrivia false cs).1, (spanTrivia false cs).2) := by
  induction hgap with
  | nil => rfl
  | @blank c gap hblank _ ih =>
    have hstart : IsGapStart c := List.mem_append_left ['#'] hblank
    have hcomment : (c == '#') = false := by
      simp only [List.mem_cons, List.not_mem_nil, or_false] at hblank
      rcases hblank with rfl | rfl | rfl | rfl <;> rfl
    rw [List.cons_append, spanTrivia, if_pos (isGapStart_iff.mp hstart), hcomment, ih]
    rfl
  | @comment text gap hline _ ih =>
    have hopen : spanTrivia false ('#' :: (text ++ '\n' :: (gap ++ cs))) =
        ('#' :: (spanTrivia true (text ++ '\n' :: (gap ++ cs))).1,
          (spanTrivia true (text ++ '\n' :: (gap ++ cs))).2) := rfl
    have happend : '#' :: (text ++ '\n' :: gap) ++ cs = '#' :: (text ++ '\n' :: (gap ++ cs)) := by
      simp
    rw [happend, hopen, spanTrivia_comment hline, ih]
    simp

theorem spanTrivia_gap {gap cs : List Char} (hgap : Gap gap)
    (hcs : ∀ c ∈ cs.head?, ¬ IsGapStart c) : spanTrivia false (gap ++ cs) = (gap, cs) := by
  have hstop : spanTrivia false cs = ([], cs) := by
    cases cs with
    | nil => rfl
    | cons c cs =>
      have hc : ¬ (isSpace c || c == '#') = true := isGapStart_iff.not.mp (hcs c rfl)
      rw [spanTrivia, if_neg hc]
  rw [hgap.spanTrivia_append, hstop, List.append_nil]

/-! ### Strings -/

theorem scanString_spelled (value rest : List Char) :
    scanString (value.flatMap escape ++ '"' :: rest) =
      some (value, value.flatMap escape ++ ['"'], rest) := by
  induction value with
  | nil => rfl
  | cons c value ih =>
    rw [List.flatMap_cons, List.append_assoc, escape]
    by_cases hquote : c = '"'
    · simp [scanString, ih, hquote]
    by_cases hslash : c = '\\'
    · simp [scanString, ih, hslash]
    · simp [scanString, ih, hquote, hslash]

/-! ### Numbers -/

/-- What a number without a sign begins with is not taken for a sign. -/
theorem not_sign {c : Char} (hc : c.isDigit = true ∨ c = '.') : c ≠ '-' ∧ c ≠ '+' := by
  rcases hc with hc | rfl
  · constructor <;> rintro rfl <;> exact absurd hc (by decide)
  · decide

theorem spanNumber_digit (digits : Int32) {c : Char} (hc : c.isDigit = true) (cs : List Char) :
    spanNumber digits (c :: cs) =
      (c :: (spanNumber (digits + 1) cs).1, (spanNumber (digits + 1) cs).2) := by
  have hc : Decimal.isDigit c = true := (isDigit_eq c).trans hc
  cases cs <;> simp [spanNumber, hc]

theorem spanNumber_point (digits : Int32) (cs : List Char) :
    spanNumber digits ('.' :: cs) =
      ('.' :: (spanNumber digits cs).1, (spanNumber digits cs).2) := by
  have hpoint : Decimal.isDigit '.' = false := by decide
  cases cs <;> simp [spanNumber, hpoint]

theorem spanNumber_digits (digits : Int32) {ds : List Char} (hds : AllDigits ds)
    (cs : List Char) :
    spanNumber digits (ds ++ cs) = (ds ++ (spanNumber (digits + .ofNat ds.length) cs).1,
      (spanNumber (digits + .ofNat ds.length) cs).2) := by
  induction ds generalizing digits with
  | nil => simp
  | cons d ds ih =>
    obtain ⟨hd, hds⟩ := List.forall_mem_cons.mp hds
    have hcount : digits + 1 + Int32.ofNat ds.length = digits + .ofNat (d :: ds).length := by
      rw [Int32.add_assoc, List.length_cons, Nat.add_comm, Int32.ofNat_add]
      rfl
    rw [List.cons_append, spanNumber_digit digits hd, ih (digits + 1) hds, hcount]
    rfl

theorem spanNumber_parted (digits : Int32) {rest : List Char} (hrest : Parted rest) :
    spanNumber digits rest = ([], rest, digits) := by
  cases rest with
  | nil => rfl
  | cons c cs =>
    have hc := hrest c rfl
    simp only [IsGapStart, List.mem_cons, List.not_mem_nil, or_false] at hc
    rcases hc with rfl | rfl | rfl | rfl | rfl <;> cases cs <;> simp [spanNumber, Decimal.isDigit]

/-- An exponent is taken once a digit was counted. -/
theorem spanNumber_exponent {digits : Int32} (hdigits : 0 < digits) {e rest : List Char}
    (he : IsExponent e) (hrest : Parted rest) :
    (spanNumber digits (e ++ rest)).1 = e ∧ (spanNumber digits (e ++ rest)).2.1 = rest := by
  cases he with
  | none => simp [spanNumber_parted digits hrest]
  | @some c s ds letter sign ne_nil alldigits =>
    have hc : Decimal.isDigit c = false ∧ c ≠ '.' := by
      rcases letter with rfl | rfl <;> decide
    have hspan : (spanNumber digits (ds ++ rest)).1 = ds ∧
        (spanNumber digits (ds ++ rest)).2.1 = rest := by
      simp [spanNumber_digits digits alldigits, spanNumber_parted _ hrest]
    cases sign with
    | none =>
      -- a digit comes next, which is no sign
      obtain ⟨d, ds, rfl⟩ := List.exists_cons_of_ne_nil ne_nil
      have hd : d ≠ '-' ∧ d ≠ '+' := not_sign (.inl (alldigits d List.mem_cons_self))
      rw [List.cons_append] at hspan
      simp [spanNumber, hc, letter, hdigits, hd, hspan]
    | plus => simp [spanNumber, hc, letter, hdigits, hspan]
    | minus => simp [spanNumber, hc, letter, hdigits, hspan]

theorem AllDigits.countP {ds : List Char} (h : AllDigits ds) :
    ds.countP Decimal.isDigit = ds.length :=
  List.countP_eq_length.mpr fun d hd => (isDigit_eq d).trans (h d hd)

theorem countP_pointed {ds es : List Char} (hds : AllDigits ds) (hes : AllDigits es) :
    (ds ++ '.' :: es).countP Decimal.isDigit = ds.length + es.length := by
  have hpoint : Decimal.isDigit '.' = false := by decide
  rw [List.countP_append, List.countP_cons_of_neg (by simp [hpoint]), hds.countP, hes.countP]

theorem IsMantissa.countP_pos {m : List Char} (h : IsMantissa m) :
    0 < m.countP Decimal.isDigit := by
  cases h with
  | whole ne_nil digits => exact digits.countP ▸ List.length_pos_iff.mpr ne_nil
  | pointed ne_nil whole fraction =>
    rw [countP_pointed whole fraction, ← List.length_append]
    exact List.length_pos_iff.mpr ne_nil

theorem ofNat_pos {k : Nat} (hpos : 0 < k) (hk : k < 2 ^ 31) : 0 < Int32.ofNat k := by
  rw [Int32.lt_iff_toInt_lt, Int32.toInt_ofNat_of_lt hk]
  exact Int.ofNat_lt.mpr hpos

/-- A mantissa is taken as a whole, and so is what stands behind it, its digits being counted. -/
theorem spanNumber_mantissa {m : List Char} (hm : IsMantissa m) (rest : List Char) :
    spanNumber 0 (m ++ rest) = (m ++ (spanNumber (.ofNat (m.countP Decimal.isDigit)) rest).1,
      (spanNumber (.ofNat (m.countP Decimal.isDigit)) rest).2) := by
  cases hm with
  | whole ne_nil digits => rw [spanNumber_digits 0 digits, digits.countP, Int32.zero_add]
  | pointed ne_nil whole fraction =>
    rw [List.append_assoc, List.cons_append, spanNumber_digits 0 whole, spanNumber_point,
      spanNumber_digits _ fraction, countP_pointed whole fraction, Int32.zero_add,
      ← Int32.ofNat_add]
    simp

/-- A mantissa begins with a digit or a point. -/
theorem IsMantissa.exists_cons {m : List Char} (h : IsMantissa m) :
    ∃ c cs, m = c :: cs ∧ (c.isDigit = true ∨ c = '.') := by
  cases h with
  | whole ne_nil digits =>
    obtain ⟨d, ds, rfl⟩ := List.exists_cons_of_ne_nil ne_nil
    exact ⟨d, ds, rfl, .inl (digits d List.mem_cons_self)⟩
  | @pointed ds es _ whole _ =>
    cases ds with
    | nil => exact ⟨'.', es, rfl, .inr rfl⟩
    | cons d ds => exact ⟨d, ds ++ '.' :: es, rfl, .inl (whole d List.mem_cons_self)⟩

/-- Without a plus or minus in front there is no sign. -/
theorem sign_of_head {cs : List Char} (hcs : ∀ c ∈ cs.head?, c ≠ '-' ∧ c ≠ '+') :
    Decimal.sign cs = (false, cs) := by
  rw [Decimal.sign]
  · rintro cs rfl
    exact (hcs '-' rfl).1 rfl
  · rintro cs rfl
    exact (hcs '+' rfl).2 rfl

theorem exists_exponent {e : List Char} (he : IsExponent e) :
    ∃ k, Decimal.exponent? e = some k := by
  cases he with
  | none => exact ⟨0, rfl⟩
  | @some c s ds letter sign ne_nil digits =>
    have hdigits : ds.all Decimal.isDigit = true :=
      List.all_eq_true.mpr fun d hd => (isDigit_eq d).trans (digits d hd)
    have hsign : (Decimal.sign (s ++ ds)).2 = ds := by
      cases sign with
      | none =>
        have hhead : ∀ d ∈ ds.head?, d ≠ '-' ∧ d ≠ '+' := fun d hd =>
          not_sign (.inl (digits d (List.mem_of_mem_head? hd)))
        rw [List.nil_append, sign_of_head hhead]
      | plus => rfl
      | minus => rfl
    simp [Decimal.exponent?, letter, hsign, ne_nil, hdigits]

theorem takeWhile_digits {ds cs : List Char} (hds : AllDigits ds)
    (hcs : ∀ c ∈ cs.head?, c.isDigit = false) :
    (ds ++ cs).takeWhile Decimal.isDigit = ds ∧ (ds ++ cs).dropWhile Decimal.isDigit = cs := by
  have hall : ∀ d ∈ ds, Decimal.isDigit d = true := fun d hd => (isDigit_eq d).trans (hds d hd)
  rw [List.takeWhile_append_of_pos hall, List.dropWhile_append_of_pos hall]
  cases cs with
  | nil => simp
  | cons c cs =>
    have hc : Decimal.isDigit c = false := (isDigit_eq c).trans (hcs c rfl)
    simp [hc]

theorem IsExponent.head {e : List Char} (he : IsExponent e) :
    ∀ c ∈ e.head?, c.isDigit = false ∧ c ≠ '.' := by
  cases he with
  | none => simp
  | some letter =>
    rintro c ⟨⟩
    rcases letter with rfl | rfl <;> decide

theorem exists_magnitude (negative : Bool) {m e : List Char} (hm : IsMantissa m)
    (he : IsExponent e) : ∃ x, Decimal.magnitude? negative (m ++ e) = some x := by
  obtain ⟨k, hk⟩ := exists_exponent he
  have hhead := he.head
  cases hm with
  | whole ne_nil digits =>
    obtain ⟨htake, hdrop⟩ := takeWhile_digits digits fun c hc => (hhead c hc).1
    rw [Decimal.magnitude?, htake, hdrop]
    cases e with
    | nil => simp [ne_nil, hk]
    | cons c e => simp [ne_nil, hk, (hhead c rfl).2]
  | @pointed ds es ne_nil whole fraction =>
    have hpoint : ∀ c ∈ ('.' :: (es ++ e)).head?, c.isDigit = false := by
      rintro c ⟨⟩
      rfl
    obtain ⟨htake, hdrop⟩ := takeWhile_digits whole hpoint
    obtain ⟨htake', hdrop'⟩ := takeWhile_digits fraction fun c hc => (hhead c hc).1
    rw [List.append_assoc, List.cons_append, Decimal.magnitude?, htake, hdrop]
    simp only [htake', hdrop', List.isEmpty_iff, ne_nil, if_false, hk]
    exact ⟨_, rfl⟩

/-- Every numeral has a value. -/
theorem exists_read_numeral {cs : List Char} (h : IsNumeral cs) :
    ∃ x, Binary64.read? cs = some x := by
  cases h with
  | @parts s m e sign mantissa exponent =>
    cases sign with
    | none =>
      obtain ⟨c, cs, rfl, hc⟩ := mantissa.exists_cons
      have hhead : ∀ d ∈ (c :: cs ++ e).head?, d ≠ '-' ∧ d ≠ '+' := by
        rintro d ⟨⟩
        exact not_sign hc
      rw [List.nil_append, Binary64.read?, sign_of_head hhead]
      exact exists_magnitude false mantissa exponent
    | plus =>
      have hmagnitude := exists_magnitude false mantissa exponent
      exact hmagnitude
    | minus =>
      have hmagnitude := exists_magnitude true mantissa exponent
      exact hmagnitude

/-! ### One token -/

/-- A numeral is taken as a whole, unless it has more digits than can be counted. -/
theorem spanNumeral_spelled {c : Char} {cs rest : List Char} (h : IsNumeral (c :: cs))
    (hcount : (c :: cs).countP Decimal.isDigit < 2 ^ 31) (hrest : Parted rest) :
    (spanNumeral c (cs ++ rest)).1 = c :: cs ∧ (spanNumeral c (cs ++ rest)).2.1 = rest := by
  generalize hnumeral : c :: cs = numeral at h hcount
  cases h with
  | @parts s m e sign mantissa exponent =>
    have hpos : 0 < Int32.ofNat (m.countP Decimal.isDigit) := by
      apply ofNat_pos mantissa.countP_pos
      simp only [List.countP_append] at hcount
      omega
    have hspan := spanNumber_mantissa mantissa (e ++ rest)
    obtain ⟨htaken, hleft⟩ := spanNumber_exponent hpos exponent hrest
    cases sign with
    | none =>
      obtain ⟨d, ds, rfl, hd⟩ := mantissa.exists_cons
      obtain ⟨rfl, rfl⟩ := List.cons.inj hnumeral
      have happend : c :: (ds.append e ++ rest) = c :: ds ++ (e ++ rest) := by simp
      rw [spanNumeral, if_neg (by simp [not_sign hd]), happend, hspan]
      simp [htaken, hleft]
    | plus =>
      obtain ⟨rfl, rfl⟩ := List.cons.inj hnumeral
      simp [spanNumeral, hspan, htaken, hleft]
    | minus =>
      obtain ⟨rfl, rfl⟩ := List.cons.inj hnumeral
      simp [spanNumeral, hspan, htaken, hleft]

/-- A numeral begins with a sign, a digit or a point. -/
theorem IsNumeral.exists_cons {cs : List Char} (h : IsNumeral cs) : ∃ c cs', cs = c :: cs' ∧
    (c = '-' ∨ c = '+' ∨ c = '.' ∨ Decimal.isDigit c = true) := by
  cases h with
  | @parts s m e sign mantissa =>
    cases sign with
    | none =>
      obtain ⟨c, cs, rfl, hc⟩ := mantissa.exists_cons
      rw [← isDigit_eq] at hc
      exact ⟨c, cs ++ e, rfl, .inr (.inr hc.symm)⟩
    | plus => exact ⟨'+', m ++ e, rfl, .inr (.inl rfl)⟩
    | minus => exact ⟨'-', m ++ e, rfl, .inl rfl⟩

theorem IsNumeral.countP_pos {cs : List Char} (h : IsNumeral cs) :
    0 < cs.countP Decimal.isDigit := by
  cases h with
  | parts _ mantissa =>
    have hpos := mantissa.countP_pos
    simp only [List.countP_append]
    omega

theorem lexeme_numeral {c : Char} {cs rest : List Char} {x : Binary64} (h : IsNumeral (c :: cs))
    (hvalue : Binary64.read? (c :: cs) = some x)
    (hcount : (c :: cs).countP Decimal.isDigit < 2 ^ 31) (hrest : Parted rest) :
    ¬ IsGapStart c ∧ lexeme c (cs ++ rest) = .ok ⟨.number x, c :: cs, rest⟩ := by
  obtain ⟨d, ds, heq, hd⟩ := h.exists_cons
  obtain ⟨rfl, rfl⟩ := List.cons.inj heq
  have hclass : c ≠ '"' ∧ c ≠ '=' ∧ ¬ IsGapStart c := by
    rcases hd with rfl | rfl | rfl | hd
    · decide
    · decide
    · decide
    · refine ⟨?_, ?_, fun hgap => ?_⟩
      · rintro rfl
        exact absurd hd (by decide)
      · rintro rfl
        exact absurd hd (by decide)
      · have hpart := hgap.not_isWordPart
        rw [isWordPart, hd, Bool.or_true] at hpart
        exact Bool.noConfusion hpart
  have hnumber : number c (cs ++ rest) = .ok ⟨.number x, c :: cs, rest⟩ := by
    obtain ⟨htaken, hleft⟩ := spanNumeral_spelled h hcount hrest
    refine number_eq_ok_iff.mpr ⟨?_, x, by rw [htaken, hvalue], by rw [htaken, hleft]⟩
    rw [spanNumeral_count, htaken]
    exact (Int32.ne_of_lt (ofNat_pos h.countP_pos hcount)).symm
  refine ⟨hclass.2.2, ?_⟩
  rw [lexeme, if_neg hclass.1, if_neg (by simp [hclass.2.1]), if_pos (by simpa [or_assoc] using hd),
    hnumber]

theorem isWordStart_of_toLower {c : Char} (h : isWordStart c.toLower = true) :
    isWordStart c = true := by
  by_cases hupper : c.val ≥ 'A'.val ∧ c.val ≤ 'Z'.val
  · have hc : 'A' ≤ c ∧ c ≤ 'Z' := hupper
    simp [isWordStart, hc]
  · rwa [Char.toLower, dif_neg hupper] at h

/-- A word is taken as far as it goes. -/
theorem lexeme_word {c : Char} {cs rest : List Char} (hstart : isWordStart c = true)
    (hcs : ∀ d ∈ cs, isWordPart d = true) (hrest : Parted rest) :
    ¬ IsGapStart c ∧ lexeme c (cs ++ rest) = .ok ⟨wordKind (c :: cs), c :: cs, rest⟩ := by
  have hne (d : Char) (hd : isWordStart d = false) : c ≠ d := by
    rintro rfl
    rw [hstart] at hd
    exact Bool.noConfusion hd
  have hdigit : Decimal.isDigit c = false := isDigit_of_isWordStart hstart
  have hgap : ¬ IsGapStart c := fun hgap => by
    have hpart := hgap.not_isWordPart
    rw [isWordPart, hstart] at hpart
    exact Bool.noConfusion hpart
  obtain ⟨htake, hdrop⟩ := takeWhile_parted hrest fun c hc => hc.not_isWordPart
  refine ⟨hgap, ?_⟩
  rw [lexeme, if_neg (hne '"' (by decide)), if_neg (by simp [hne '=' (by decide)]),
    if_neg (by simp [hne '-' (by decide), hne '+' (by decide), hne '.' (by decide), hdigit]),
    if_pos hstart, List.takeWhile_append_of_pos hcs, List.dropWhile_append_of_pos hcs, htake, hdrop,
    List.append_nil]

theorem lexeme_keyword {cs rest : List Char} (hne : cs ≠ [])
    (hcs : ∀ d ∈ cs.map Char.toLower, isWordStart d = true) (hrest : Parted rest) :
    ∃ c cs', cs = c :: cs' ∧ ¬ IsGapStart c ∧
      lexeme c (cs' ++ rest) = .ok ⟨wordKind cs, cs, rest⟩ := by
  have hletter : ∀ d ∈ cs, isWordStart d = true := fun d hd =>
    isWordStart_of_toLower (hcs d.toLower (List.mem_map_of_mem hd))
  obtain ⟨c, cs, rfl⟩ := List.exists_cons_of_ne_nil hne
  obtain ⟨hc, hletters⟩ := List.forall_mem_cons.mp hletter
  have hparts : ∀ d ∈ cs, isWordPart d = true := fun d hd => by
    rw [isWordPart, hletters d hd, Bool.true_or]
  exact ⟨c, cs, rfl, lexeme_word hc hparts hrest⟩

theorem lexeme_string (value rest : List Char) :
    lexeme '"' (value.flatMap escape ++ ['"'] ++ rest) =
      .ok ⟨.text (String.ofList value), '"' :: (value.flatMap escape ++ ['"']), rest⟩ := by
  have hscan := scanString_spelled value rest
  rw [List.append_assoc, List.singleton_append, lexeme, if_pos rfl, hscan]

/-- A spelled token is read as that token and nothing more. -/
theorem Spells.lexeme_eq {cs rest : List Char} {kind : Token.Kind} (h : Spells cs kind)
    (hcount : ∀ x, kind = .number x → cs.countP Decimal.isDigit < 2 ^ 31) (hrest : Parted rest) :
    ∃ c cs', cs = c :: cs' ∧ ¬ IsGapStart c ∧ lexeme c (cs' ++ rest) = .ok ⟨kind, cs, rest⟩ := by
  cases h with
  | name name =>
    obtain ⟨c, cs, rfl, hc⟩ := name.first
    have hstart : isWordStart c = true := by
      have hpart := isWordPart_iff.mpr (name.chars c List.mem_cons_self)
      rwa [isWordPart, isDigit_eq, hc, Bool.or_false] at hpart
    have hcs : ∀ d ∈ cs, isWordPart d = true := fun d hd =>
      isWordPart_iff.mpr (name.chars d (List.mem_cons_of_mem c hd))
    have hkind : wordKind (c :: cs) = .name (String.ofList (c :: cs)) := by
      rw [wordKind, Decimal.lower, if_neg name.free.1, if_neg name.free.2]
    exact ⟨c, cs, rfl, hkind ▸ lexeme_word hstart hcs hrest⟩
  | text value =>
    exact ⟨'"', _, rfl, by decide, lexeme_string value rest⟩
  | @number _ x numeral value =>
    obtain ⟨c, cs, rfl, -⟩ := numeral.exists_cons
    exact ⟨c, cs, rfl, lexeme_numeral numeral value (hcount x rfl) hrest⟩
  | isWord word =>
    have hkind : wordKind cs = .arrow := wordKind_eq_arrow_iff.mpr word
    exact hkind ▸ lexeme_keyword (by rintro rfl; cases word) (by simp [word, isWordStart]) hrest
  | fromWord word =>
    have hkind : wordKind cs = .fromWord := by
      rw [wordKind, Decimal.lower, word]
      rfl
    exact hkind ▸ lexeme_keyword (by rintro rfl; cases word) (by simp [word, isWordStart]) hrest
  | arrow => exact ⟨'=', ['>'], rfl, by decide, rfl⟩
  | equals =>
    have hhead : rest.head? ≠ some '>' := fun hhead => absurd (hrest '>' hhead) (by decide)
    exact ⟨'=', [], rfl, by decide, by simp [lexeme, hhead, mark?, isWordStart, Decimal.isDigit]⟩
  | less => exact ⟨'<', [], rfl, by decide, rfl⟩
  | leftBracket => exact ⟨'[', [], rfl, by decide, rfl⟩
  | rightBracket => exact ⟨']', [], rfl, by decide, rfl⟩
  | pipe => exact ⟨'|', [], rfl, by decide, rfl⟩
  | comma => exact ⟨',', [], rfl, by decide, rfl⟩
  | colon => exact ⟨':', [], rfl, by decide, rfl⟩
  | semicolon => exact ⟨';', [], rfl, by decide, rfl⟩
  | leftParen => exact ⟨'(', [], rfl, by decide, rfl⟩
  | rightParen => exact ⟨')', [], rfl, by decide, rfl⟩
  | greater => exact ⟨'>', [], rfl, by decide, rfl⟩
  | bang => exact ⟨'!', [], rfl, by decide, rfl⟩
  | atSign => exact ⟨'@', [], rfl, by decide, rfl⟩

/-! ### Many tokens -/

/-- Where only blanks and comments are left there is the end of the file. -/
theorem tokensFrom_done {cs : List Char} (hskip : (spanTrivia false cs).2 = []) (pos : Position) :
    tokensFrom pos cs = .ok [⟨.endOfFile, pos.after (spanTrivia false cs).1⟩] := by
  rw [tokensFrom]
  split
  · rfl
  · rename_i hr
    rw [hskip] at hr
    cases hr

theorem tokensFrom_step {cs rest : List Char} {c : Char} {l : Lexeme}
    (hskip : (spanTrivia false cs).2 = c :: rest) (hlexeme : lexeme c rest = .ok l)
    {pos : Position} {tokens : List Token}
    (h : tokensFrom ((pos.after (spanTrivia false cs).1).after l.taken) l.rest = .ok tokens) :
    tokensFrom pos cs = .ok (⟨l.kind, pos.after (spanTrivia false cs).1⟩ :: tokens) := by
  rw [tokensFrom]
  split
  · rename_i hr
    rw [hskip] at hr
    cases hr
  · rename_i hr
    rw [hskip] at hr
    obtain ⟨rfl, rfl⟩ := List.cons.inj hr
    split
    · rename_i hl
      rw [hlexeme] at hl
      cases hl
    · rename_i hl
      rw [hlexeme] at hl
      cases hl
      rw [h]

/-- What has lexemes is read. -/
theorem Lexemes.exists_tokens {cs : List Char} {ls : List Lexeme} (h : Lexemes cs ls)
    (pos : Position) : ∃ tokens, tokensFrom pos cs = .ok tokens ∧
      tokens.map Token.kind = ls.map Lexeme.kind ++ [.endOfFile] := by
  induction h generalizing pos with
  | done hskip => exact ⟨_, tokensFrom_done hskip pos, rfl⟩
  | @step cs rest c l ls hskip hlexeme _ ih =>
    obtain ⟨tokens, htokens, hkinds⟩ := ih ((pos.after (spanTrivia false cs).1).after l.taken)
    exact ⟨_, tokensFrom_step hskip hlexeme htokens, by simp [hkinds]⟩

theorem Gap.parted_append {gap rest : List Char} (h : Gap gap) (hgap : rest = [] ∨ gap ≠ []) :
    Parted (gap ++ rest) := by
  cases gap with
  | nil =>
    rcases hgap with rfl | hne
    · exact h.isGapStart
    · exact absurd rfl hne
  | cons => exact h.isGapStart

theorem exists_lexemes_written {lead : List Char} (hlead : Gap lead) (ts : List Written)
    (hgaps : ∀ t ∈ ts.dropLast, t.gap ≠ []) (hcount : ∀ t ∈ ts, t.Countable) :
    ∃ ls, Lexemes (lead ++ ts.flatMap Written.text) ls ∧
      ls.map Lexeme.kind = ts.map Written.kind := by
  induction ts generalizing lead with
  | nil =>
    have hskip : spanTrivia false (lead ++ []) = (lead, []) := spanTrivia_gap hlead (by simp)
    exact ⟨[], .done (congrArg Prod.snd hskip), rfl⟩
  | cons t ts ih =>
    have hparted : Parted (t.gap ++ ts.flatMap Written.text) := by
      apply t.isGap.parted_append
      cases ts with
      | nil => exact .inl rfl
      | cons => exact .inr (hgaps t List.mem_cons_self)
    have hrest : ∀ u ∈ ts.dropLast, u.gap ≠ [] := fun u hu => by
      cases ts with
      | nil => cases hu
      | cons => exact hgaps u (List.mem_cons_of_mem t hu)
    obtain ⟨hcounted, hcounts⟩ := List.forall_mem_cons.mp hcount
    obtain ⟨ls, hls, hkinds⟩ := ih t.isGap hrest hcounts
    obtain ⟨c, cs, hspelling, hc, hlexeme⟩ := t.spells.lexeme_eq hcounted hparted
    have htext : (t :: ts).flatMap Written.text =
        c :: (cs ++ (t.gap ++ ts.flatMap Written.text)) := by
      simp [Written.text, hspelling]
    have hskip : spanTrivia false (lead ++ (t :: ts).flatMap Written.text) =
        (lead, c :: (cs ++ (t.gap ++ ts.flatMap Written.text))) := by
      rw [htext]
      exact spanTrivia_gap hlead (by rintro d ⟨⟩; exact hc)
    exact ⟨_ :: ls, .step (congrArg Prod.snd hskip) hlexeme hls, by simp [hkinds]⟩

/-! ### Bytes of a string -/

def utf8 (cs : List Char) : List UInt8 := cs.flatMap String.utf8EncodeChar

/-- The text of a string behind its opening quote, read byte by byte, and the bytes behind it. -/
def scanBytes : List UInt8 → Option (List UInt8 × List UInt8)
  | [] => none
  | 34 :: bs => some ([], bs)
  | [92] => none
  | 92 :: b :: bs =>
    (scanBytes bs).map fun (value, rest) =>
      let meaning :=
        if b = 34 then [34] else if b = 92 then [92] else if b = 110 then [10]
        else if b = 116 then [9] else [92, b]
      (meaning ++ value, rest)
  | b :: bs => (scanBytes bs).map fun (value, rest) => (b :: value, rest)

/-- A character is the ASCII byte of its number, or it has no byte that is an ASCII character. -/
theorem exists_utf8EncodeChar (c : Char) : ∃ b bs, String.utf8EncodeChar c = b :: bs ∧
    (b.toNat = c.toNat ∨ 128 ≤ b.toNat ∧ 128 ≤ c.toNat) ∧ ∀ x ∈ bs, 128 ≤ x.toNat := by
  have hmod (n : Nat) : (UInt8.ofNat n).toNat = n % 256 := UInt8.toNat_ofNat
  have hc : c.toNat = c.val.toNat := rfl
  rw [String.utf8EncodeChar]
  split_ifs
  · exact ⟨_, _, rfl, .inl (by rw [hmod]; omega), by simp⟩
  · exact ⟨_, _, rfl, .inr (by rw [hmod]; omega), by simp [hmod]; omega⟩
  · exact ⟨_, _, rfl, .inr (by rw [hmod]; omega), by simp [hmod]; omega⟩
  · exact ⟨_, _, rfl, .inr (by rw [hmod]; omega), by simp [hmod]; omega⟩

theorem byte_eq_iff {b : UInt8} {c : Char}
    (h : b.toNat = c.toNat ∨ 128 ≤ b.toNat ∧ 128 ≤ c.toNat) (d : Char) (hd : d.toNat < 128) :
    b = UInt8.ofNat d.toNat ↔ c = d := by
  have hmod : (UInt8.ofNat d.toNat).toNat = d.toNat % 256 := UInt8.toNat_ofNat
  rw [← UInt8.toNat_inj, ← Char.toNat_inj, hmod]
  omega

theorem utf8_cons {b : UInt8} {bs : List UInt8} {c : Char} (hc : String.utf8EncodeChar c = b :: bs)
    (cs : List Char) : utf8 (c :: cs) = b :: (bs ++ utf8 cs) := by
  rw [utf8, List.flatMap_cons, hc]
  rfl

theorem scanBytes_cons {b : UInt8} (hquote : b ≠ 34) (hslash : b ≠ 92) (bs : List UInt8) :
    scanBytes (b :: bs) = (scanBytes bs).map fun (value, rest) => (b :: value, rest) :=
  scanBytes.eq_5 b bs hquote (fun h _ => hslash h) fun _ _ h _ => hslash h

theorem scanBytes_copy {bs : List UInt8} (hbs : ∀ b ∈ bs, 128 ≤ b.toNat) (rest : List UInt8) :
    scanBytes (bs ++ rest) = (scanBytes rest).map fun (value, rest) => (bs ++ value, rest) := by
  induction bs with
  | nil => simp
  | cons b bs ih =>
    obtain ⟨hb, hbs⟩ := List.forall_mem_cons.mp hbs
    have hquote : b ≠ 34 := by rintro rfl; exact absurd hb (by decide)
    have hslash : b ≠ 92 := by rintro rfl; exact absurd hb (by decide)
    rw [List.cons_append, scanBytes_cons hquote hslash, ih hbs, Option.map_map]
    rfl

/-- Reading a string byte by byte gives the bytes of the characters that are read. -/
theorem scanBytes_utf8 (cs : List Char) :
    scanBytes (utf8 cs) = (scanString cs).map fun (value, _, rest) => (utf8 value, utf8 rest) := by
  fun_induction scanString cs with
  | case1 => rfl
  | case2 cs => rfl
  | case3 => rfl
  | case4 c cs ih =>
    obtain ⟨b, bs, hc, hhead, htail⟩ := exists_utf8EncodeChar c
    have hquote : b = 34 ↔ c = '"' := byte_eq_iff hhead '"' (by decide)
    have hslash : b = 92 ↔ c = '\\' := byte_eq_iff hhead '\\' (by decide)
    have hfeed : b = 110 ↔ c = 'n' := byte_eq_iff hhead 'n' (by decide)
    have htab : b = 116 ↔ c = 't' := byte_eq_iff hhead 't' (by decide)
    have hbytes : utf8 ('\\' :: c :: cs) = 92 :: b :: (bs ++ utf8 cs) :=
      congrArg (92 :: ·) (utf8_cons hc cs)
    rw [hbytes, scanBytes, scanBytes_copy htail, ih, Option.map_map, Option.map_map, Option.map_map]
    congr 1
    funext r
    obtain ⟨value, taken, rest⟩ := r
    simp only [Function.comp, hquote, hslash, hfeed, htab]
    by_cases hmeant : c = '"' ∨ c = '\\' ∨ c = 'n' ∨ c = 't'
    · rcases hmeant with rfl | rfl | rfl | rfl <;> cases hc <;> rfl
    · obtain ⟨hq, hs, hn, ht⟩ : c ≠ '"' ∧ c ≠ '\\' ∧ c ≠ 'n' ∧ c ≠ 't' := by tauto
      have hkept : utf8 (['\\', c] ++ value) = [92, b] ++ (bs ++ utf8 value) :=
        congrArg (92 :: ·) (utf8_cons hc value)
      simp only [if_neg hq, if_neg hs, if_neg hn, if_neg ht, hkept]
  | case5 c cs hquote hend hslash ih =>
    obtain ⟨b, bs, hc, hhead, htail⟩ := exists_utf8EncodeChar c
    have hc' : c ≠ '\\' := fun heq => by
      cases cs with
      | nil => exact hend heq rfl
      | cons => exact hslash _ _ heq rfl
    have hb : b ≠ 34 ∧ b ≠ 92 :=
      ⟨(byte_eq_iff hhead '"' (by decide)).not.mpr hquote,
        (byte_eq_iff hhead '\\' (by decide)).not.mpr hc'⟩
    rw [utf8_cons hc, scanBytes_cons hb.1 hb.2, scanBytes_copy htail, ih, Option.map_map,
      Option.map_map, Option.map_map]
    congr 1
    funext r
    obtain ⟨value, taken, rest⟩ := r
    simp only [Function.comp, utf8_cons hc]

end RuleGraph.Lexer

namespace RuleGraph
open Lexer

/-- Written tokens are read as they were meant, as long as no number has more digits than can be
counted. Every numeral is among what may be written, and a string is read byte by byte just as it is
read by its characters. -/
theorem tokenize_written (lead : List Char) (ts : List Written) (hlead : Gap lead)
    (hgaps : ∀ t ∈ ts.dropLast, t.gap ≠ []) (hcount : ∀ t ∈ ts, t.Countable) :
    (∃ tokens, tokenize (String.ofList (lead ++ ts.flatMap Written.text)) = .ok tokens ∧
      tokens.map Token.kind = ts.map Written.kind ++ [.endOfFile]) ∧
    (∀ cs, IsNumeral cs → ∃ x, Binary64.read? cs = some x ∧ Spells cs (.number x)) ∧
    ∀ value rest, scanBytes (utf8 (value.flatMap escape ++ '"' :: rest)) =
      some (utf8 value, utf8 rest) := by
  refine ⟨?_, fun cs hcs => ?_, fun value rest => ?_⟩
  · obtain ⟨ls, hls, hkinds⟩ := exists_lexemes_written hlead ts hgaps hcount
    obtain ⟨tokens, htokens, hkinds'⟩ := hls.exists_tokens Position.start
    refine ⟨tokens, ?_, hkinds'.trans (by rw [hkinds])⟩
    rw [tokenize, String.toList_ofList, htokens]
  · obtain ⟨x, hx⟩ := exists_read_numeral hcs
    exact ⟨x, hx, .number hcs hx⟩
  · rw [scanBytes_utf8, scanString_spelled]
    rfl

theorem tokenize_written_limit : ∃ tokens,
    tokenize "# limits\n low iS\t\"a \\\"é\\\"\n\" = > -2.5e+3" = .ok tokens ∧
      tokens.map Token.kind = [.name "low", .arrow, .text "a \"é\"\n", .equals, .greater,
        .number (.ofDecimal true 25 2), .endOfFile] := by
  have hname : IsName ['l', 'o', 'w'] :=
    ⟨⟨'l', ['o', 'w'], rfl, rfl⟩, by simp [Char.isAlphanum, Char.isAlpha, Char.isLower], by decide⟩
  have hmantissa : IsMantissa ['2', '.', '5'] :=
    @IsMantissa.pointed ['2'] ['5'] (by decide) (by simp [AllDigits]) (by simp [AllDigits])
  have hexponent : IsExponent ['e', '+', '3'] :=
    @IsExponent.some 'e' ['+'] ['3'] (.inl rfl) .plus (by decide) (by simp [AllDigits])
  have hvalue : Binary64.read? ['-', '2', '.', '5', 'e', '+', '3'] =
      some (.ofDecimal true 25 2) := rfl
  have hblank : Gap [' '] := .blank (by simp) .nil
  have hlead : Gap ['#', ' ', 'l', 'i', 'm', 'i', 't', 's', '\n', ' '] :=
    @Gap.comment [' ', 'l', 'i', 'm', 'i', 't', 's'] [' '] (by simp) hblank
  obtain ⟨⟨tokens, htokens, hkinds⟩, -⟩ := tokenize_written _
    [⟨_, _, _, .name hname, hblank⟩,
      ⟨_, ['i', 'S'], ['\t'], .isWord (by decide), .blank (by simp) .nil⟩,
      ⟨_, _, _, .text ['a', ' ', '"', 'é', '"', '\n'], hblank⟩,
      ⟨_, _, _, .equals, hblank⟩, ⟨_, _, _, .greater, hblank⟩,
      ⟨_, _, _, .number (.parts .minus hmantissa hexponent) hvalue, .nil⟩]
    hlead (by simp) (by simp [Written.Countable, Decimal.isDigit])
  refine ⟨tokens, ?_, hkinds⟩
  rw [← htokens]
  congr 1

/-- Where the count of digits has turned negative, no exponent is taken with them. -/
theorem exists_tokens_of_count_neg {n : Nat} (hneg : Int32.ofNat n < 0) : ∃ x tokens,
    tokenize (String.ofList (List.replicate n '1' ++ ['e', '5'])) = .ok tokens ∧
      tokens.map Token.kind = [.number x, .name "e5", .endOfFile] := by
  have hletter (cs : List Char) :
      spanNumber (.ofNat n) ('e' :: cs) = ([], 'e' :: cs, .ofNat n) := by
    have hpos : ¬ 0 < Int32.ofNat n := Int32.lt_asymm hneg
    have hdigit : Decimal.isDigit 'e' = false := by decide
    cases cs <;> simp [spanNumber, hdigit, hpos]
  obtain ⟨k, rfl⟩ : ∃ k, n = k + 1 := by
    apply Nat.exists_eq_succ_of_ne_zero
    rintro rfl
    exact absurd hneg (by decide)
  have hdigits : AllDigits (List.replicate (k + 1) '1') := fun d hd =>
    List.eq_of_mem_replicate hd ▸ rfl
  have hspan : spanNumeral '1' (List.replicate k '1' ++ ['e', '5']) =
      (List.replicate (k + 1) '1', ['e', '5'], .ofNat (k + 1)) := by
    have hspan := spanNumber_digits 0 hdigits ['e', '5']
    rw [List.length_replicate, Int32.zero_add, hletter, List.append_nil] at hspan
    rw [spanNumeral, if_neg (by decide), ← hspan]
    rfl
  obtain ⟨x, hx⟩ := exists_read_numeral (.parts .none (.whole (by simp) hdigits) .none)
  rw [List.nil_append, List.append_nil] at hx
  have hnumber : lexeme '1' (List.replicate k '1' ++ ['e', '5']) =
      .ok ⟨.number x, List.replicate (k + 1) '1', ['e', '5']⟩ := by
    have hnumber := number_eq_ok_iff.mpr ⟨by rw [hspan]; exact Int32.ne_of_lt hneg, x,
      by rw [hspan, hx], rfl⟩
    rw [hspan] at hnumber
    rw [lexeme, if_neg (by decide), if_neg (by simp), if_pos (by decide), hnumber]
  have hlexemes : Lexemes (List.replicate (k + 1) '1' ++ ['e', '5'])
      [⟨.number x, List.replicate (k + 1) '1', ['e', '5']⟩, ⟨.name "e5", ['e', '5'], []⟩] :=
    .step rfl hnumber (.step rfl rfl (.done rfl))
  obtain ⟨tokens, htokens, hkinds⟩ := hlexemes.exists_tokens Position.start
  exact ⟨x, tokens, by rw [tokenize, String.toList_ofList, htokens], hkinds⟩

/-- A numeral with so many digits that they are not counted is read as two tokens. -/
theorem tokenize_written_uncounted :
    IsNumeral (List.replicate (2 ^ 31) '1' ++ ['e', '5']) ∧ ∃ x tokens,
      tokenize (String.ofList (List.replicate (2 ^ 31) '1' ++ ['e', '5'])) = .ok tokens ∧
        tokens.map Token.kind = [.number x, .name "e5", .endOfFile] := by
  refine ⟨?_, exists_tokens_of_count_neg (by decide)⟩
  have hdigits : AllDigits (List.replicate (2 ^ 31) '1') := fun d hd =>
    List.eq_of_mem_replicate hd ▸ rfl
  have hne : List.replicate (2 ^ 31) '1' ≠ [] := by
    rw [ne_eq, List.replicate_eq_nil_iff]
    decide
  exact .parts .none (.whole hne hdigits) (.some (.inl rfl) .none (by simp) (by simp [AllDigits]))

end RuleGraph
