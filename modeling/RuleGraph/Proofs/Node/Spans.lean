import Mathlib
import RuleGraph.Node.Duration
import RuleGraph.Proofs.Decimal.Numbers
import RuleGraph.Proofs.Text.Trimming

/-!
# How spans of time are written

A span of time is written as a number with a unit. `Denotes` says which texts denote which span:
blanks may stand around the text and between its parts, the number is one without an exponent, it is
rounded to a finite value that is not below zero, and in seconds it is less than 2^64. A text is
read as a span just when it denotes the span. Blanks make no difference to that, but an error quotes
those that are inside of the text.
-/
namespace RuleGraph

/-! ### Units -/

/-- A unit of time. A number that has none is one of seconds. -/
inductive TimeUnit
  | none
  | millisecond
  | second
  | minute
  | hour
  deriving DecidableEq, Repr

namespace TimeUnit

open Binary64 (Rounds)

def letters : TimeUnit → List Char
  | none => []
  | millisecond => ['m', 's']
  | second => ['s']
  | minute => ['m']
  | hour => ['h']

/-- So many units in seconds, in the arithmetic of binary64 values. -/
def seconds (unit : TimeUnit) (x : Binary64) : Binary64 :=
  match unit with
  | none => x
  | millisecond => x.div (.ofNat 1000)
  | second => x
  | minute => x.mul (.ofNat 60)
  | hour => x.mul (.ofNat 3600)

/-- So many units are so many seconds: the binary64 value nearest to the exact number of them. -/
def Scales (unit : TimeUnit) (value seconds : ℚ) : Prop :=
  match unit with
  | none => seconds = value
  | millisecond => Rounds (value / 1000) seconds
  | second => seconds = value
  | minute => Rounds (value * 60) seconds
  | hour => Rounds (value * 3600) seconds

theorem inSeconds?_eq_some_iff {unit : List Char} {x y : Binary64} :
    Duration.inSeconds? unit x = some y ↔ ∃ u : TimeUnit, unit = u.letters ∧ y = u.seconds x := by
  constructor
  · intro h
    unfold Duration.inSeconds? at h
    split_ifs at h with hmilli hsecond hminute hhour
    · exact ⟨millisecond, hmilli, (Option.some.inj h).symm⟩
    · obtain hnone | hsecond : unit = [] ∨ unit = ['s'] := by simpa using hsecond
      · exact ⟨none, hnone, (Option.some.inj h).symm⟩
      · exact ⟨second, hsecond, (Option.some.inj h).symm⟩
    · exact ⟨minute, hminute, (Option.some.inj h).symm⟩
    · exact ⟨hour, hhour, (Option.some.inj h).symm⟩
  · rintro ⟨u, rfl, rfl⟩
    cases u <;> rfl

theorem Scales.nonneg {unit : TimeUnit} {value seconds : ℚ} (h : unit.Scales value seconds)
    (hvalue : 0 ≤ value) : 0 ≤ seconds := by
  cases unit with
  | none => exact hvalue.trans_eq h.symm
  | millisecond => exact Rounds.nonneg h (by positivity)
  | second => exact hvalue.trans_eq h.symm
  | minute => exact Rounds.nonneg h (by positivity)
  | hour => exact Rounds.nonneg h (by positivity)

/-- The factors of the units are exact values. -/
theorem toRat?_factors : (Binary64.ofNat 1000).toRat? = some 1000 ∧
    (Binary64.ofNat 60).toRat? = some 60 ∧ (Binary64.ofNat 3600).toRat? = some 3600 := by
  have hexact {n m : ℕ} {q : ℤ} (h : Binary64.ofNat n = .finite false m q)
      (hvalue : (m : ℚ) * 2 ^ q = n) : (Binary64.ofNat n).toRat? = some (n : ℚ) := by
    rw [h, ← hvalue]
    rfl
  refine ⟨hexact (m := 8796093022208000) (q := -43) rfl ?_,
    hexact (m := 8444249301319680) (q := -47) rfl ?_,
    hexact (m := 7916483719987200) (q := -41) rfl ?_⟩ <;> norm_num

/-- A value is scaled as the number is that it is, up to where numbers are no finite values. -/
theorem toRat?_seconds_iff (unit : TimeUnit) {x : Binary64} {value seconds : ℚ}
    (hx : x.toRat? = some value) (hseconds : |seconds| < 2 ^ 64) :
    (unit.seconds x).toRat? = some seconds ↔ unit.Scales value seconds := by
  obtain ⟨hthousand, hminute, hhour⟩ := toRat?_factors
  have hlimit : |seconds| < 2 ^ (1024 : ℤ) :=
    hseconds.trans (zpow_lt_zpow_right₀ (m := 64) (by norm_num) (by norm_num))
  have hself : x.toRat? = some seconds ↔ seconds = value := by
    rw [hx, Option.some.injEq, eq_comm]
  cases unit with
  | none => exact hself
  | second => exact hself
  | millisecond =>
    exact (Binary64.toRat?_div_iff hx hthousand (by norm_num)).trans (and_iff_left hlimit)
  | minute => exact (Binary64.toRat?_mul_iff hx hminute).trans (and_iff_left hlimit)
  | hour => exact (Binary64.toRat?_mul_iff hx hhour).trans (and_iff_left hlimit)

theorem mem_of_mem_letters {unit : TimeUnit} {c : Char} (hc : c ∈ unit.letters) :
    c ∈ ['m', 's', 'h'] := by
  cases unit <;> simp [letters] at hc ⊢ <;> tauto

end TimeUnit

/-- The same fault in another text. -/
def DurationFault.quoting (fault : DurationFault) (written : String) : DurationFault :=
  match fault with
  | .notDuration _ => .notDuration written
  | .notPositive _ => .notPositive written
  | .unknownUnit unit => .unknownUnit unit
  | .outOfRange _ => .outOfRange written

namespace Duration

open Lexer (IsSign IsMantissa)
open Text (Blank trim)

/-! ### What a text denotes -/

/-- The span that a text denotes: blanks, a number, blanks, a unit and blanks again. The number is
rounded to a value, which in its unit is rounded to seconds, and the span is the whole number of
nanoseconds that is nearest to these. -/
inductive Denotes : List Char → Duration → Prop
  | parts {front s m gap back : List Char} {unit : TimeUnit} {value seconds : ℚ} {d : Duration}
      (front_blank : Blank front) (sign : IsSign s) (mantissa : IsMantissa m)
      (gap_blank : Blank gap) (back_blank : Blank back)
      (rounds : Binary64.Rounds (Decimal.rational (s ++ m)) value)
      (finite : value < 2 ^ (1024 : ℤ)) (nonneg : 0 ≤ value) (scales : unit.Scales value seconds)
      (fits : seconds < 2 ^ 64) (nearest : Binary64.IsNearest (seconds * 10 ^ 9) d.nanos) :
      Denotes (front ++ (s ++ m) ++ gap ++ unit.letters ++ back) d

theorem isLetter_eq (c : Char) : isLetter c = c.isAlpha := by
  simp only [isLetter, Char.isAlpha, Char.isUpper, Char.isLower, Char.le_def]
  grind

theorem isAlpha_of_isBlank {c : Char} (hc : Text.isBlank c = true) : c.isAlpha = false := by
  by_contra hletter
  have hrange : 0x41 ≤ c.toNat ∧ c.toNat ≤ 0x7A := by
    simp [Char.isAlpha, Char.isUpper, Char.isLower, UInt32.le_iff_toNat_le] at hletter
    omega
  simp [Text.isBlank] at hc
  omega

theorem ofSeconds?_eq_some_iff {y : Binary64} {d : Duration} :
    ofSeconds? y = some d ↔ ∃ seconds, y.toRat? = some seconds ∧ |seconds| < 2 ^ 64 ∧
      Binary64.IsNearest (|seconds| * 10 ^ 9) d.nanos := by
  cases y with
  | nan => simp [ofSeconds?, Binary64.toRat?]
  | infinite negative => simp [ofSeconds?, Binary64.toRat?]
  | finite negative m q =>
    have hpos := Binary64.ratio_snd_pos m q
    have hpos' : (0 : ℚ) < (Binary64.ratio m q).2 := by exact_mod_cast hpos
    have hvalue := Binary64.ratio_div m q
    have habs : |Binary64.signed negative ((m : ℚ) * 2 ^ q)| = m * 2 ^ q :=
      Binary64.abs_signed negative (by positivity)
    have hfits : ¬Nat.pow 2 64 * (Binary64.ratio m q).2 ≤ (Binary64.ratio m q).1 ↔
        (m : ℚ) * 2 ^ q < 2 ^ 64 := by
      rw [← hvalue, div_lt_iff₀ hpos', not_le]
      exact_mod_cast Iff.rfl
    have hnearest : Binary64.roundDiv ((Binary64.ratio m q).1 * nanosPerSecond)
        (Binary64.ratio m q).2 = d.nanos ↔
        Binary64.IsNearest ((m : ℚ) * 2 ^ q * 10 ^ 9) d.nanos := by
      have hnanos : (nanosPerSecond : ℚ) = 10 ^ 9 := by norm_num [nanosPerSecond]
      rw [Binary64.roundDiv_eq_iff _ _ hpos, ← hvalue, Nat.cast_mul, hnanos, mul_div_right_comm]
    have hspan (n : ℕ) : (⟨n⟩ : Duration) = d ↔ n = d.nanos := by
      cases d
      simp
    rw [ofSeconds?, Binary64.toRat?]
    simp only [ite_eq_iff, hfits, reduceCtorEq, and_false, false_or, Option.some.injEq, hspan,
      hnearest, exists_eq_left', habs]

/-! ### The two parts of a text -/

/-- The number of a span as it is written, with the blanks behind it. -/
def numberPart (cs : List Char) : List Char := (trim cs).takeWhile fun c => !isLetter c

/-- The unit of a span as it is written: all the text from the first letter on. -/
def unitPart (cs : List Char) : List Char := (trim cs).dropWhile fun c => !isLetter c

theorem parse_eq_ok_iff {written : String} {d : Duration} : parse written = .ok d ↔
    ∃ x y, Binary64.read? (trim (numberPart written.toList)) = some x ∧
      (x.isFinite = true ∧ x.isBelowZero = false) ∧
      inSeconds? (unitPart written.toList) x = some y ∧ ofSeconds? y = some d := by
  constructor
  · intro h
    unfold parse at h
    simp only at h
    split at h
    · cases h
    · rename_i x hread
      split at h
      · cases h
      · rename_i hx
        split at h
        · cases h
        · rename_i y hunit
          split at h
          · cases h
          · rename_i hseconds
            cases h
            exact ⟨x, y, hread, by simpa using hx, hunit, hseconds⟩
  · rintro ⟨x, y, hread, ⟨hfinite, hbelow⟩, hunit, hseconds⟩
    unfold numberPart at hread
    unfold unitPart at hunit
    unfold parse
    simp [hread, hfinite, hbelow, hunit, hseconds]

/-- What is read from a text depends on its parts; an error quotes the text as well. -/
theorem parse_eq_mapError {s t : String}
    (hnumber : trim (numberPart s.toList) = trim (numberPart t.toList))
    (hunit : unitPart s.toList = unitPart t.toList) :
    parse s = (parse t).mapError (·.quoting (String.ofList (trim s.toList))) := by
  unfold numberPart at hnumber
  unfold unitPart at hunit
  unfold parse
  simp only [hnumber, hunit]
  split
  · rfl
  · split
    · rfl
    · split
      · rfl
      · split <;> rfl

theorem parse_congr {s t : String} (h : trim s.toList = trim t.toList) : parse s = parse t := by
  unfold parse
  rw [h]

/-- A unit begins with the first letter. -/
theorem parts_append {number unit : List Char} (hnumber : ∀ c ∈ number, c.isAlpha = false)
    (hunit : ∀ c ∈ unit.head?, c.isAlpha = true) :
    trim (numberPart (number ++ unit)) = trim number ∧
      unitPart (number ++ unit) = Text.trimEnd unit := by
  have hpart {cs : List Char} (hcs : ∀ c ∈ cs, c ∈ number) : ∀ c ∈ cs, (!isLetter c) = true := by
    intro c hc
    rw [isLetter_eq, hnumber c (hcs c hc)]
    rfl
  cases unit with
  | nil =>
    have hall := hpart fun c (hc : c ∈ trim number) => Text.mem_of_mem_trim hc
    rw [List.append_nil, numberPart, unitPart, List.takeWhile_eq_self_iff.mpr hall,
      List.dropWhile_eq_nil_iff.mpr hall]
    exact ⟨Text.trim_trim number, rfl⟩
  | cons c unit =>
    have hc : c.isAlpha = true := hunit c rfl
    have hblank : Text.isBlank c = false := by
      by_contra hblank
      rw [isAlpha_of_isBlank (by simpa using hblank)] at hc
      cases hc
    have hstop : (!isLetter c) = false := by rw [isLetter_eq, hc]; rfl
    have hall := hpart fun c (hc : c ∈ Text.trimStart number) => (List.dropWhile_sublist _).mem hc
    have hend : Text.trimEnd (c :: unit) = c :: Text.trimEnd unit :=
      Text.trimEnd_append_cons hblank [] unit
    rw [numberPart, unitPart, Text.trim_append_cons hblank, List.takeWhile_append_of_pos hall,
      List.dropWhile_append_of_pos hall, List.takeWhile_cons_of_neg (by simp [hstop]),
      List.dropWhile_cons_of_neg (by simp [hstop]), List.append_nil]
    exact ⟨Text.trim_trimStart number, hend.symm⟩

/-! ### Reading -/

theorem plain_of_isDigit {c : Char} (hc : c.isDigit = true) :
    Text.isBlank c = false ∧ c.isAlpha = false := by
  have hrange : 0x30 ≤ c.toNat ∧ c.toNat ≤ 0x39 := by
    simpa [Char.isDigit, UInt32.le_iff_toNat_le] using hc
  constructor
  · simp [Text.isBlank]
    omega
  · simp [Char.isAlpha, Char.isUpper, Char.isLower, UInt32.le_iff_toNat_le]
    omega

/-- A number has neither letters nor blanks inside of it. -/
theorem plain_of_mem {s m : List Char} {c : Char} (hs : IsSign s) (hm : IsMantissa m)
    (hc : c ∈ s ++ m) : Text.isBlank c = false ∧ c.isAlpha = false := by
  obtain hc | hc := List.mem_append.mp hc
  · cases hs with
    | none => cases hc
    | plus =>
      obtain rfl := List.mem_singleton.mp hc
      decide
    | minus =>
      obtain rfl := List.mem_singleton.mp hc
      decide
  · cases hm with
    | whole _ digits => exact plain_of_isDigit (digits c hc)
    | pointed _ whole fraction =>
      obtain hc | hc := List.mem_append.mp hc
      · exact plain_of_isDigit (whole c hc)
      · obtain rfl | hc := List.mem_cons.mp hc
        · decide
        · exact plain_of_isDigit (fraction c hc)

section Written

variable {front s m gap back : List Char}

/-- In front of the unit there is no letter. -/
theorem not_isAlpha_of_mem (hfront : Blank front) (hs : IsSign s) (hm : IsMantissa m)
    (hgap : Blank gap) {c : Char} (hc : c ∈ front ++ (s ++ m) ++ gap) : c.isAlpha = false := by
  obtain hc | hc := List.mem_append.mp hc
  · obtain hc | hc := List.mem_append.mp hc
    · exact isAlpha_of_isBlank (hfront c hc)
    · exact (plain_of_mem hs hm hc).2
  · exact isAlpha_of_isBlank (hgap c hc)

theorem parts_written (unit : TimeUnit) (hfront : Blank front) (hs : IsSign s) (hm : IsMantissa m)
    (hgap : Blank gap) (hback : Blank back) :
    trim (numberPart (front ++ (s ++ m) ++ gap ++ unit.letters ++ back)) = s ++ m ∧
      unitPart (front ++ (s ++ m) ++ gap ++ unit.letters ++ back) = unit.letters := by
  have hletters : ∀ c ∈ unit.letters.head?, c.isAlpha = true := by
    cases unit <;> rintro c ⟨⟩ <;> rfl
  have htrim := Text.trim_append_right hback (front ++ (s ++ m) ++ gap ++ unit.letters)
  have hnumber := congrArg (List.takeWhile fun c => !isLetter c) htrim
  have hunit := congrArg (List.dropWhile fun c => !isLetter c) htrim
  obtain ⟨hnumber', hunit'⟩ := parts_append
    (fun c hc => not_isAlpha_of_mem hfront hs hm hgap hc) hletters
  have hsolid : ∀ c ∈ s ++ m, Text.isBlank c = false := fun c hc => (plain_of_mem hs hm hc).1
  rw [numberPart, hnumber, unitPart, hunit]
  refine ⟨hnumber'.trans ?_, hunit'.trans ?_⟩
  · rw [Text.trim_append hfront hgap, Text.trim_of_solid hsolid]
  · cases unit <;> rfl

end Written

/-- The spans of a number that is read from its digits. -/
theorem exists_span_iff {s m : List Char} (unit : TimeUnit) (hs : IsSign s) (hm : IsMantissa m)
    {d : Duration} :
    (∃ x, Binary64.read? (s ++ m) = some x ∧ (x.isFinite = true ∧ x.isBelowZero = false) ∧
      ofSeconds? (unit.seconds x) = some d) ↔
    ∃ value seconds, Binary64.Rounds (Decimal.rational (s ++ m)) value ∧
      value < 2 ^ (1024 : ℤ) ∧ 0 ≤ value ∧ unit.Scales value seconds ∧ seconds < 2 ^ 64 ∧
      Binary64.IsNearest (seconds * 10 ^ 9) d.nanos := by
  obtain ⟨x, hread, hrat⟩ := Decimal.exists_read? hs hm
  simp only [hread, Option.some.injEq, exists_eq_left', ← Binary64.exists_toRat?_iff,
    ofSeconds?_eq_some_iff]
  constructor
  · rintro ⟨⟨value, hvalue, hnonneg⟩, seconds, hseconds, hfits, hnearest⟩
    obtain ⟨hrounds, hfinite⟩ := (hrat value).mp hvalue
    have hscales := (unit.toRat?_seconds_iff hvalue hfits).mp hseconds
    rw [abs_of_nonneg hnonneg] at hfinite
    rw [abs_of_nonneg (hscales.nonneg hnonneg)] at hfits hnearest
    exact ⟨value, seconds, hrounds, hfinite, hnonneg, hscales, hfits, hnearest⟩
  · rintro ⟨value, seconds, hrounds, hfinite, hnonneg, hscales, hfits, hnearest⟩
    rw [← abs_of_nonneg hnonneg] at hfinite
    rw [← abs_of_nonneg (hscales.nonneg hnonneg)] at hfits hnearest
    have hvalue := (hrat value).mpr ⟨hrounds, hfinite⟩
    exact ⟨⟨value, hvalue, hnonneg⟩, seconds, (unit.toRat?_seconds_iff hvalue hfits).mpr hscales,
      hfits, hnearest⟩

theorem parse_eq_ok_iff_denotes {written : String} {d : Duration} :
    parse written = .ok d ↔ Denotes written.toList d := by
  rw [parse_eq_ok_iff]
  constructor
  · rintro ⟨x, y, hread, hx, hunit, hseconds⟩
    obtain ⟨unit, hletters, rfl⟩ := TimeUnit.inSeconds?_eq_some_iff.mp hunit
    have hnumber : ∀ c ∈ trim (numberPart written.toList), c.isAlpha = false := fun c hc => by
      have hletter := List.mem_takeWhile_imp (Text.mem_of_mem_trim hc)
      rw [isLetter_eq] at hletter
      simpa using hletter
    obtain ⟨s, m, hs, hm, hsplit⟩ := Decimal.exists_parts_of_read? hnumber hread
    obtain ⟨front, back, hfront, hback, htext⟩ := Text.exists_trim written.toList
    obtain ⟨lead, gap, hlead, hgap, hpart⟩ := Text.exists_trim (numberPart written.toList)
    have hparts : numberPart written.toList ++ unitPart written.toList = trim written.toList :=
      List.takeWhile_append_dropWhile
    have hwritten : written.toList = front ++ lead ++ (s ++ m) ++ gap ++ unit.letters ++ back := by
      rw [htext, ← hparts, hpart, hsplit, hletters]
      simp
    rw [hwritten]
    rw [hsplit] at hread
    obtain ⟨value, seconds, hrounds, hfinite, hnonneg, hscales, hfits, hnearest⟩ :=
      (exists_span_iff unit hs hm).mp ⟨x, hread, hx, hseconds⟩
    exact .parts (hfront.append hlead) hs hm hgap hback hrounds hfinite hnonneg hscales hfits
      hnearest
  · intro h
    generalize hcs : written.toList = cs at h
    cases h with
    | @parts front s m gap back unit value seconds d hfront hs hm hgap hback hrounds hfinite hnonneg
        hscales hfits hnearest =>
      obtain ⟨hnumber, hunit⟩ := parts_written unit hfront hs hm hgap hback
      obtain ⟨x, hread, hx, hseconds⟩ := (exists_span_iff unit hs hm).mpr
        ⟨value, seconds, hrounds, hfinite, hnonneg, hscales, hfits, hnearest⟩
      exact ⟨x, unit.seconds x, by rw [hnumber, hread], hx,
        TimeUnit.inSeconds?_eq_some_iff.mpr ⟨unit, hunit, rfl⟩, hseconds⟩

theorem exists_fault_iff {written : String} :
    (∃ fault, parse written = .error fault) ↔ ∀ d, ¬Denotes written.toList d := by
  simp only [← parse_eq_ok_iff_denotes]
  cases parse written <;> simp

theorem Denotes.mem_letters {cs : List Char} {c : Char} {d : Duration} (h : Denotes cs d)
    (hc : c ∈ cs) (hletter : c.isAlpha = true) : c ∈ ['m', 's', 'h'] := by
  cases h with
  | parts hfront hs hm hgap hback =>
    obtain hc | hc := List.mem_append.mp hc
    · obtain hc | hc := List.mem_append.mp hc
      · rw [not_isAlpha_of_mem hfront hs hm hgap hc] at hletter
        cases hletter
      · exact TimeUnit.mem_of_mem_letters hc
    · rw [isAlpha_of_isBlank (hback c hc)] at hletter
      cases hletter

/-- Digits come before letters. -/
theorem Denotes.not_isDigit {cs ds : List Char} {c : Char} {d : Duration}
    (h : Denotes (cs ++ c :: ds) d) (hletter : c.isAlpha = true) {digit : Char}
    (hdigit : digit ∈ ds) : digit.isDigit = false := by
  generalize htext : cs ++ c :: ds = text at h
  cases h with
  | @parts front s m gap back unit _ _ _ hfront hs hm hgap hback =>
    rw [List.append_cons, List.append_assoc _ unit.letters] at htext
    by_contra hnot
    have hplain := plain_of_isDigit (by simpa using hnot)
    obtain ⟨more, hbefore, -⟩ | ⟨more, -, hbehind⟩ := List.append_eq_append_iff.mp htext
    · have hc : c ∈ front ++ (s ++ m) ++ gap := by
        rw [hbefore]
        simp
      rw [not_isAlpha_of_mem hfront hs hm hgap hc] at hletter
      cases hletter
    · have hmem : digit ∈ unit.letters ++ back := by
        rw [hbehind]
        exact List.mem_append_right _ hdigit
      obtain hmem | hmem := List.mem_append.mp hmem
      · have halpha : ∀ d ∈ ['m', 's', 'h'], d.isAlpha = true := by
          simp [Char.isAlpha, Char.isLower]
        rw [halpha digit (TimeUnit.mem_of_mem_letters hmem)] at hplain
        exact absurd hplain.2 (by decide)
      · rw [hback digit hmem] at hplain
        exact absurd hplain.1 (by decide)

/-- A text is read as a span just when it denotes one. Letters other than those of the units are
refused, and so are exponents, infinities, units in upper case; and a digit is refused behind a
letter, and so are spans put together of several ones. Blanks around a text make no difference, and
those between number and unit make none but that an error quotes them. -/
theorem reads_exactly_spans (written : String) :
    (∀ d, parse written = .ok d ↔ Denotes written.toList d) ∧
    ((∃ fault, parse written = .error fault) ↔ ∀ d, ¬Denotes written.toList d) ∧
    (∀ c ∈ written.toList, c.isAlpha = true → c ∉ ['m', 's', 'h'] →
      ∃ fault, parse written = .error fault) ∧
    (∀ cs c ds, written.toList = cs ++ c :: ds → c.isAlpha = true →
      (∃ digit ∈ ds, digit.isDigit = true) → ∃ fault, parse written = .error fault) ∧
    (∀ front back, Blank front → Blank back →
      parse (String.ofList (front ++ written.toList ++ back)) = parse written) ∧
    ∀ number gap unit, written.toList = number ++ unit → (∀ c ∈ number, c.isAlpha = false) →
      (∀ c ∈ unit.head?, c.isAlpha = true) → Blank gap →
      parse (String.ofList (number ++ gap ++ unit)) =
        (parse written).mapError (·.quoting (String.ofList (trim (number ++ gap ++ unit)))) := by
  refine ⟨fun d => parse_eq_ok_iff_denotes, exists_fault_iff, fun c hc hletter hunit => ?_,
    fun cs c ds hsplit hletter hdigit => ?_, fun front back hfront hback => ?_,
    fun number gap unit hsplit hnumber hunit hgap => ?_⟩
  · exact exists_fault_iff.mpr fun d h => hunit (h.mem_letters hc hletter)
  · obtain ⟨digit, hmem, hdigit⟩ := hdigit
    refine exists_fault_iff.mpr fun d h => ?_
    rw [hsplit] at h
    rw [h.not_isDigit hletter hmem] at hdigit
    cases hdigit
  · apply parse_congr
    rw [String.toList_ofList, Text.trim_append hfront hback]
  · have hall : ∀ c ∈ number ++ gap, c.isAlpha = false := fun c hc =>
      (List.mem_append.mp hc).elim (hnumber c) fun hc => isAlpha_of_isBlank (hgap c hc)
    obtain ⟨hpart, hend⟩ := parts_append hnumber hunit
    obtain ⟨hpart', hend'⟩ := parts_append hall hunit
    have htrim := Text.trim_append_right hgap number
    have herror := @parse_eq_mapError (String.ofList (number ++ gap ++ unit)) written
    rw [String.toList_ofList, hsplit, hpart, hpart', hend, hend', htrim] at herror
    exact herror rfl rfl

/-- A minute and a half. -/
theorem reads_exactly_spans_minutes :
    parse "1.5 m" = .ok ⟨90 * nanosPerSecond⟩ ∧ Denotes "1.5 m".toList ⟨90 * nanosPerSecond⟩ ∧
    parse "\t1.5 m\n" = .ok ⟨90 * nanosPerSecond⟩ ∧ parse "1.5m" = .ok ⟨90 * nanosPerSecond⟩ ∧
    (∃ fault, parse "1e3s" = .error fault) ∧ ∃ fault, parse "1m30s" = .error fault := by
  have hminutes : parse "1.5m" = .ok ⟨90 * nanosPerSecond⟩ := by decide +kernel
  obtain ⟨-, -, -, -, -, hgap⟩ := reads_exactly_spans "1.5m"
  obtain ⟨hdenotes, -, -, -, haround, -⟩ := reads_exactly_spans "1.5 m"
  have hblank : Blank [' '] := by simp [Blank, Text.isBlank]
  have hspaced : parse "1.5 m" = .ok ⟨90 * nanosPerSecond⟩ := by
    have h := hgap ['1', '.', '5'] [' '] ['m'] rfl (by simp) (by simp) hblank
    rwa [hminutes] at h
  refine ⟨hspaced, (hdenotes _).mp hspaced, ?_, hminutes, ?_, ?_⟩
  · have h := haround ['\t'] ['\n'] (by simp [Blank, Text.isBlank]) (by simp [Blank, Text.isBlank])
    rwa [hspaced] at h
  · obtain ⟨-, -, hletter, -, -, -⟩ := reads_exactly_spans "1e3s"
    exact hletter 'e' (by simp) rfl (by decide)
  · obtain ⟨-, -, -, hcompound, -, -⟩ := reads_exactly_spans "1m30s"
    exact hcompound ['1'] 'm' ['3', '0', 's'] rfl rfl ⟨'3', List.mem_cons_self, rfl⟩

/-- An error quotes the blanks in front of the unit. -/
theorem inner_blank_changes_error :
    parse "-1s" = .error (.notPositive "-1s") ∧ parse "-1 s" = .error (.notPositive "-1 s") ∧
      parse "-1 s" ≠ parse "-1s" := by
  have hplain : parse "-1s" = .error (.notPositive "-1s") := rfl
  have hspaced : parse "-1 s" = .error (.notPositive "-1 s") := rfl
  refine ⟨hplain, hspaced, ?_⟩
  rw [hplain, hspaced]
  simp

end Duration

end RuleGraph
