import Mathlib
import RuleGraph.Decimal.Binary64

/-!
# Rounding to binary64 values

A finite binary64 value is a rational number. `Rounds` says which of them is the nearest to a
rational number, the one with the even significand where two are. Decimals are rounded so, and with
them the exact products and quotients of values, unless the result is too large to be finite.
-/
namespace RuleGraph

namespace Binary64

/-! ### Values as rational numbers -/

/-- The number with a sign in front of it. -/
def signed (negative : Bool) (v : ℚ) : ℚ := if negative then -v else v

/-- The rational number that a finite value is. -/
def toRat? : Binary64 → Option ℚ
  | .finite negative m q => some (signed negative (m * 2 ^ q))
  | _ => none

variable {v w : ℚ}

theorem abs_signed (negative : Bool) (hv : 0 ≤ v) : |signed negative v| = v := by
  cases negative <;> simp [signed, abs_of_nonneg hv]

theorem exists_of_toRat? {x : Binary64} (h : x.toRat? = some v) :
    ∃ negative m q, x = finite negative m q ∧ v = signed negative (m * 2 ^ q) := by
  cases x with
  | nan => cases h
  | infinite negative => cases h
  | finite negative m q => exact ⟨negative, m, q, rfl, (Option.some.inj h).symm⟩

theorem signed_mul (s t : Bool) (v w : ℚ) :
    signed s v * signed t w = signed (s != t) (v * w) := by
  cases s <;> cases t <;> simp [signed]

theorem signed_div (s t : Bool) (v w : ℚ) :
    signed s v / signed t w = signed (s != t) (v / w) := by
  cases s <;> cases t <;> simp [signed, neg_div, div_neg]

theorem signed_zero (negative : Bool) : signed negative 0 = 0 := by
  cases negative <;> simp [signed]

theorem signed_lt_zero_iff (negative : Bool) (hv : 0 < v) :
    decide (signed negative v < 0) = negative := by
  cases negative <;> simp [signed, hv, hv.le]

theorem ratio_snd_pos (m : ℕ) (q : ℤ) : 0 < (ratio m q).2 := Nat.two_pow_pos _

theorem ratio_div (m : ℕ) (q : ℤ) : ((ratio m q).1 : ℚ) / (ratio m q).2 = m * 2 ^ q := by
  obtain ⟨n, rfl | rfl⟩ := q.eq_nat_or_neg
  · simp [ratio]
  · simp [ratio, div_eq_mul_inv]

theorem exists_toRat?_iff {x : Binary64} :
    (∃ v, x.toRat? = some v ∧ 0 ≤ v) ↔ x.isFinite = true ∧ x.isBelowZero = false := by
  cases x with
  | nan => simp [isFinite, toRat?]
  | infinite negative => simp [isFinite, toRat?]
  | finite negative m q =>
    have hpow : (0 : ℚ) < 2 ^ q := by positivity
    have hvalue : (0 : ℚ) ≤ m * 2 ^ q := by positivity
    cases negative with
    | false => simpa [isFinite, isBelowZero, isNegative, toRat?, signed] using hvalue
    | true =>
      have hzero : (m : ℚ) * 2 ^ q ≤ 0 ↔ m = 0 := by
        rw [hvalue.ge_iff_eq', mul_eq_zero, or_iff_left hpow.ne', Nat.cast_eq_zero]
      simpa [isFinite, isBelowZero, isNegative, isZero, toRat?, signed] using hzero

/-! ### Rounding to a natural number -/

/-- The natural number that is nearest to a rational one, the even one of two that are. -/
def IsNearest (v : ℚ) (n : ℕ) : Prop := 2 * |v - n| < 1 ∨ 2 * |v - n| = 1 ∧ Even n

theorem isNearest_div_iff (a n : ℕ) {b : ℕ} (hb : 0 < b) :
    IsNearest (a / b) n ↔ 2 * ((a : ℤ) - b * n).natAbs < b ∨
      2 * ((a : ℤ) - b * n).natAbs = b ∧ Even n := by
  have hb' : (0 : ℚ) < b := by exact_mod_cast hb
  have hdistance : 2 * |(a : ℚ) / b - n| = (2 * ((a : ℤ) - b * n).natAbs : ℕ) / b := by
    rw [div_sub' hb'.ne', abs_div, abs_of_pos hb', Nat.cast_mul, Nat.cast_natAbs]
    push_cast
    ring
  rw [IsNearest, hdistance, div_lt_one hb', div_eq_one_iff_eq hb'.ne', Nat.cast_lt, Nat.cast_inj]

theorem isNearest_roundDiv (a : ℕ) {b : ℕ} (hb : 0 < b) : IsNearest (a / b) (roundDiv a b) := by
  rw [isNearest_div_iff a _ hb]
  have hdiv : (a : ℤ) = b * (a / b : ℕ) + (a % b : ℕ) := by
    exact_mod_cast (Nat.div_add_mod a b).symm
  have hmod : a % b < b := Nat.mod_lt a hb
  have hfloor : (a : ℤ) - b * (a / b : ℕ) = (a % b : ℕ) := by omega
  have hceil : (a : ℤ) - b * (a / b + 1 : ℕ) = (a % b : ℕ) - b := by
    push_cast at hfloor ⊢
    linarith
  unfold roundDiv
  simp only
  split_ifs with hless hmore heven
  · rw [hfloor]
    omega
  · rw [hceil]
    omega
  · rw [hfloor, Nat.even_iff]
    omega
  · rw [hceil, Nat.even_iff]
    omega

theorem IsNearest.le {v : ℚ} {m n : ℕ} (hm : IsNearest v m) (hn : IsNearest v n) : n ≤ m := by
  by_contra hlt
  have hgap : (m : ℚ) + 1 ≤ n := by exact_mod_cast Nat.lt_of_not_le hlt
  have hbelow : v - m ≤ |v - m| := le_abs_self _
  have habove : -(v - n) ≤ |v - n| := neg_le_abs _
  -- both are a half away, and so next to each other and even
  obtain hm | ⟨hm, heven⟩ := hm <;> obtain hn | ⟨hn, heven'⟩ := hn
  · linarith
  · linarith
  · linarith
  · have hnext : (n : ℚ) ≤ m + 1 := by linarith
    have hnext' : n = m + 1 := by
      have hle : n ≤ m + 1 := by exact_mod_cast hnext
      omega
    rw [hnext', Nat.even_add_one] at heven'
    exact heven' heven

theorem IsNearest.le_of_lt {v : ℚ} {n k : ℕ} (h : IsNearest v n) (hv : v < k) : n ≤ k := by
  by_contra hlt
  have hgap : (k : ℚ) + 1 ≤ n := by exact_mod_cast Nat.lt_of_not_le hlt
  have habove : -(v - n) ≤ |v - n| := neg_le_abs _
  obtain h | ⟨h, -⟩ := h <;> linarith

theorem IsNearest.le_of_le {v : ℚ} {n k : ℕ} (h : IsNearest v n) (hv : k ≤ v) : k ≤ n := by
  by_contra hlt
  have hgap : (n : ℚ) + 1 ≤ k := by exact_mod_cast Nat.lt_of_not_le hlt
  have hbelow : v - n ≤ |v - n| := le_abs_self _
  obtain h | ⟨h, -⟩ := h <;> linarith

theorem roundDiv_eq_iff (a n : ℕ) {b : ℕ} (hb : 0 < b) :
    roundDiv a b = n ↔ IsNearest (a / b) n := by
  have hround := isNearest_roundDiv a hb
  refine ⟨fun h => h ▸ hround, fun h => Nat.le_antisymm (h.le hround) (hround.le h)⟩

/-! ### Rounding to a binary64 value -/

/-- Around `v` the binary64 values are the multiples of 2^`q`, if their size has no limit. -/
structure Grid (v : ℚ) (q : ℤ) : Prop where
  least_le : -1074 ≤ q
  lt : v < 2 ^ (q + 53)
  le : q = -1074 ∨ 2 ^ (q + 52) ≤ v

/-- The binary64 value nearest to `v`, with the sign of `v`, if its size has no limit. -/
def Rounds (v w : ℚ) : Prop :=
  ∃ (m : ℕ) (q : ℤ), Grid |v| q ∧ IsNearest (|v| / 2 ^ q) m ∧ w = signed (v < 0) (m * 2 ^ q)

theorem Grid.exponent_le {v : ℚ} {q r : ℤ} (hq : Grid v q) (hr : Grid v r) : r ≤ q := by
  obtain hleast | hle := hr.le
  · exact hleast.trans_le hq.least_le
  · have hlt : (2 : ℚ) ^ (r + 52) < 2 ^ (q + 53) := hle.trans_lt hq.lt
    have hexponent := (zpow_lt_zpow_iff_right₀ (by norm_num)).mp hlt
    omega

theorem rounds_iff {q : ℤ} {m : ℕ} (hgrid : Grid |v| q) (hnearest : IsNearest (|v| / 2 ^ q) m) :
    Rounds v w ↔ w = signed (v < 0) (m * 2 ^ q) := by
  refine ⟨?_, fun h => ⟨m, q, hgrid, hnearest, h⟩⟩
  rintro ⟨n, r, hgrid', hnearest', rfl⟩
  obtain rfl : q = r := le_antisymm (hgrid'.exponent_le hgrid) (hgrid.exponent_le hgrid')
  rw [Nat.le_antisymm (hnearest'.le hnearest) (hnearest.le hnearest')]

theorem Rounds.nonneg (h : Rounds v w) (hv : 0 ≤ v) : 0 ≤ w := by
  obtain ⟨m, q, -, -, rfl⟩ := h
  rw [signed, if_neg (by simpa using hv)]
  positivity

theorem scaled_div (num den : ℕ) (q : ℤ) :
    ((num * Nat.pow 2 (-q).toNat : ℕ) : ℚ) / (den * Nat.pow 2 q.toNat : ℕ) = num / den / 2 ^ q := by
  obtain ⟨n, rfl | rfl⟩ := q.eq_nat_or_neg
  · simp [div_div]
  · simp [div_eq_mul_inv]
    ring

variable {num den : ℕ}

theorem scaled_pos (hden : 0 < den) (q : ℤ) : 0 < den * Nat.pow 2 q.toNat :=
  Nat.mul_pos hden (Nat.two_pow_pos _)

theorem binade_bounds (hnum : num ≠ 0) (hden : 0 < den) :
    (2 : ℚ) ^ binade num den ≤ num / den ∧ (num : ℚ) / den < 2 ^ (binade num den + 1) := by
  have hden' : (0 : ℚ) < den := by exact_mod_cast hden
  have hnumLow : (2 : ℚ) ^ num.log2 ≤ num := by exact_mod_cast Nat.log2_self_le hnum
  have hnumHigh : (num : ℚ) < 2 ^ (num.log2 + 1) := by exact_mod_cast Nat.lt_log2_self
  have hdenLow : (2 : ℚ) ^ den.log2 ≤ den := by exact_mod_cast Nat.log2_self_le hden.ne'
  have hdenHigh : (den : ℚ) < 2 ^ (den.log2 + 1) := by exact_mod_cast Nat.lt_log2_self
  let guess : ℤ := (num.log2 : ℤ) - den.log2
  have hlow : (2 : ℚ) ^ (guess - 1) ≤ num / den := by
    have hexponent : guess - 1 = (num.log2 : ℤ) - (den.log2 + 1 : ℕ) := by omega
    rw [hexponent, zpow_sub₀ two_ne_zero, zpow_natCast, zpow_natCast]
    exact div_le_div₀ (Nat.cast_nonneg num) hnumLow hden' hdenHigh.le
  have hhigh : (num : ℚ) / den < 2 ^ (guess + 1) := by
    have hexponent : guess + 1 = (num.log2 + 1 : ℕ) - (den.log2 : ℤ) := by omega
    rw [hexponent, zpow_sub₀ two_ne_zero, zpow_natCast, zpow_natCast]
    exact div_lt_div₀ hnumHigh hdenLow (by positivity) (by positivity)
  have hguess : num * Nat.pow 2 (-guess).toNat < den * Nat.pow 2 guess.toNat ↔
      (num : ℚ) / den < 2 ^ guess := by
    have hpos : (0 : ℚ) < (den * Nat.pow 2 guess.toNat : ℕ) := by
      exact_mod_cast scaled_pos hden guess
    rw [← Nat.cast_lt (α := ℚ), ← div_lt_one hpos, scaled_div, div_lt_one (by positivity)]
  unfold binade
  simp only
  split
  · rename_i hless
    exact ⟨hlow, by rw [sub_add_cancel]; exact hguess.mp hless⟩
  · rename_i hless
    exact ⟨not_lt.mp (hguess.not.mp hless), hhigh⟩

theorem grid_binade (hnum : num ≠ 0) (hden : 0 < den) :
    Grid (num / den) (max (binade num den - 52) (-1074)) := by
  obtain ⟨hlow, hhigh⟩ := binade_bounds hnum hden
  refine ⟨le_max_right _ _, hhigh.trans_le ?_, ?_⟩
  · exact zpow_le_zpow_right₀ (by norm_num) (by omega)
  · by_cases hleast : binade num den - 52 ≤ -1074
    · exact .inl (max_eq_right hleast)
    · rw [max_eq_left (by omega), sub_add_cancel]
      exact .inr hlow

/-- The significand that is found on a grid has 53 binary digits, or is the next power of two. -/
theorem Grid.significand_le {v : ℚ} {q : ℤ} {m : ℕ} (h : Grid v q)
    (hm : IsNearest (v / 2 ^ q) m) : m ≤ 2 ^ 53 := by
  refine hm.le_of_lt ?_
  rw [div_lt_iff₀ (by positivity)]
  calc v < 2 ^ (q + 53) := h.lt
    _ = (2 ^ 53 : ℕ) * 2 ^ q := by rw [zpow_add₀ two_ne_zero, mul_comm]; norm_num

theorem Grid.le_significand {v : ℚ} {q : ℤ} {m : ℕ} (h : Grid v q) (hq : q ≠ -1074)
    (hm : IsNearest (v / 2 ^ q) m) : 2 ^ 52 ≤ m := by
  refine hm.le_of_le ?_
  rw [le_div_iff₀ (by positivity)]
  calc ((2 ^ 52 : ℕ) : ℚ) * 2 ^ q = 2 ^ (q + 52) := by
        rw [zpow_add₀ two_ne_zero, mul_comm]; norm_num
    _ ≤ v := h.le.resolve_left hq

/-- The exponents of finite values end where the values reach 2^1024. -/
theorem toRat?_limited (negative : Bool) {m : ℕ} {q : ℤ} (hle : m < 2 ^ 53)
    (hge : 971 < q → 2 ^ 52 ≤ m) :
    (if 971 < q then infinite negative else finite negative m q).toRat? =
      if (m : ℚ) * 2 ^ q < 2 ^ (1024 : ℤ) then some (signed negative (m * 2 ^ q)) else none := by
  have hle' : (m : ℚ) < 2 ^ (53 : ℤ) := by exact_mod_cast hle
  have hlimit {a b : ℤ} (hab : a + b = 1024) : (2 : ℚ) ^ (1024 : ℤ) = 2 ^ a * 2 ^ b := by
    rw [← hab, zpow_add₀ two_ne_zero]
  split
  · rename_i hq
    have hge' : (2 : ℚ) ^ (52 : ℤ) ≤ m := by exact_mod_cast hge hq
    have hlarge : (2 : ℚ) ^ (1024 : ℤ) ≤ m * 2 ^ q := by
      rw [hlimit (a := 52) (b := 972) rfl]
      exact mul_le_mul hge' (zpow_le_zpow_right₀ (by norm_num) hq) (by positivity) (by positivity)
    rw [if_neg (not_lt.mpr hlarge)]
    rfl
  · rename_i hq
    have hsmall : (m : ℚ) * 2 ^ q < 2 ^ (1024 : ℤ) := by
      rw [hlimit (a := 53) (b := 971) rfl]
      exact mul_lt_mul hle' (zpow_le_zpow_right₀ (by norm_num) (not_lt.mp hq)) (by positivity)
        (by positivity)
    rw [if_pos hsmall]
    rfl

/-- A significand of 2^53 is halved, and the exponent takes the factor. -/
theorem toRat?_carried (negative : Bool) {m : ℕ} {q : ℤ} (hle : m ≤ 2 ^ 53)
    (hge : q ≠ -1074 → 2 ^ 52 ≤ m) :
    (let (m, q) := if m = Nat.pow 2 53 then (Nat.pow 2 52, q + 1) else (m, q)
      if 971 < q then infinite negative else finite negative m q).toRat? =
      if (m : ℚ) * 2 ^ q < 2 ^ (1024 : ℤ) then some (signed negative (m * 2 ^ q)) else none := by
  by_cases hcarry : m = Nat.pow 2 53
  · have hdouble : (m : ℚ) * 2 ^ q = (Nat.pow 2 52 : ℕ) * 2 ^ (q + 1) := by
      have hpow : Nat.pow 2 53 = Nat.pow 2 52 * 2 := rfl
      rw [hcarry, hpow, Nat.cast_mul, zpow_add_one₀ two_ne_zero]
      push_cast
      ring
    rw [if_pos hcarry, hdouble]
    exact toRat?_limited negative (by norm_num) fun _ => le_rfl
  · rw [if_neg hcarry]
    exact toRat?_limited negative (lt_of_le_of_ne hle hcarry) fun hq => hge (by omega)

/-- What is less than half of the least value is rounded to zero. -/
theorem rounds_iff_of_small (hv : |v| < 2 ^ (-1075 : ℤ)) : Rounds v w ↔ w = 0 := by
  have hpow : (2 : ℚ) ^ (-1075 : ℤ) * 2 = 2 ^ (-1074 : ℤ) := by
    rw [← zpow_add_one₀ two_ne_zero]
    norm_num
  have hleast : |v| < 2 ^ (-1074 + 53 : ℤ) :=
    hv.trans (zpow_lt_zpow_right₀ (by norm_num) (by norm_num))
  have hhalf : 2 * (|v| / 2 ^ (-1074 : ℤ)) < 1 := by
    rw [mul_div_assoc', div_lt_one (by positivity), ← hpow, mul_comm]
    exact mul_lt_mul_of_pos_right hv two_pos
  have hnearest : IsNearest (|v| / 2 ^ (-1074 : ℤ)) 0 := by
    refine .inl ?_
    rwa [Nat.cast_zero, sub_zero, abs_of_nonneg (by positivity)]
  rw [rounds_iff ⟨le_rfl, hleast, .inl rfl⟩ hnearest, Nat.cast_zero, zero_mul, signed_zero]

theorem Rounds.le_abs (h : Rounds v w) (hv : 2 ^ (1024 : ℤ) ≤ |v|) : 2 ^ (1024 : ℤ) ≤ |w| := by
  obtain ⟨m, q, hgrid, hnearest, rfl⟩ := h
  have hexponent := (zpow_lt_zpow_iff_right₀ (by norm_num)).mp (hv.trans_lt hgrid.lt)
  have hm : (2 : ℚ) ^ (52 : ℤ) ≤ m := by
    exact_mod_cast hgrid.le_significand (by omega) hnearest
  rw [abs_signed _ (by positivity)]
  calc (2 : ℚ) ^ (1024 : ℤ) = 2 ^ (52 : ℤ) * 2 ^ (972 : ℤ) := (zpow_add₀ two_ne_zero 52 972)
    _ ≤ m * 2 ^ q :=
      mul_le_mul hm (zpow_le_zpow_right₀ (by norm_num) (by omega)) (by positivity) (by positivity)

/-- The zeros are what zero is rounded to. -/
theorem toRat?_zero_iff (negative : Bool) :
    (zero negative).toRat? = some w ↔ Rounds (signed negative 0) w ∧ |w| < 2 ^ (1024 : ℤ) := by
  rw [zero, toRat?, Nat.cast_zero, zero_mul, signed_zero, Option.some.injEq,
    rounds_iff_of_small (by rw [abs_zero]; positivity), eq_comm]
  refine ⟨fun h => ⟨h, ?_⟩, And.left⟩
  rw [h, abs_zero]
  positivity

/-- A quotient is rounded, and is finite when the rounded value is less than 2^1024. -/
theorem toRat?_ofRatio_iff (negative : Bool) (num : ℕ) (hden : 0 < den) :
    (ofRatio negative num den).toRat? = some w ↔
      Rounds (signed negative (num / den)) w ∧ |w| < 2 ^ (1024 : ℤ) := by
  by_cases hnum : num = 0
  · rw [hnum, Nat.cast_zero, zero_div, ← toRat?_zero_iff]
    rfl
  · have hvalue : (0 : ℚ) < num / den :=
      div_pos (by exact_mod_cast Nat.pos_of_ne_zero hnum) (by exact_mod_cast hden)
    have hgrid := grid_binade hnum hden
    generalize hq : max (binade num den - 52) (-1074) = q at hgrid
    have hround := isNearest_roundDiv (num * Nat.pow 2 (-q).toNat) (scaled_pos hden q)
    rw [scaled_div] at hround
    generalize hm : roundDiv (num * Nat.pow 2 (-q).toNat) (den * Nat.pow 2 q.toNat) = m at hround
    have hfound : (ofRatio negative num den).toRat? =
        if (m : ℚ) * 2 ^ q < 2 ^ (1024 : ℤ) then some (signed negative (m * 2 ^ q)) else none := by
      rw [ofRatio, if_neg hnum]
      simp only [hq, hm]
      exact toRat?_carried negative (hgrid.significand_le hround) fun hleast =>
        hgrid.le_significand hleast hround
    have habs : |signed negative ((m : ℚ) * 2 ^ q)| = m * 2 ^ q :=
      abs_signed negative (by positivity)
    rw [← abs_signed negative hvalue.le] at hgrid hround
    rw [hfound, rounds_iff hgrid hround, signed_lt_zero_iff negative hvalue]
    constructor
    · intro h
      split at h
      · rename_i hlt
        obtain rfl := Option.some.inj h
        exact ⟨rfl, habs.trans_lt hlt⟩
      · cases h
    · rintro ⟨rfl, hlt⟩
      exact if_pos (habs.symm.trans_lt hlt)

/-! ### Decimals -/

theorem decimal_bounds {digits : ℕ} (hdigits : digits ≠ 0) (e : ℤ) :
    (10 : ℚ) ^ (((Nat.toDigits 10 digits).length : ℤ) + e - 1) ≤ digits * 10 ^ e ∧
      (digits : ℚ) * 10 ^ e < 10 ^ (((Nat.toDigits 10 digits).length : ℤ) + e) := by
  have hlength (k : ℕ) (hk : 0 < k) : (Nat.toDigits 10 digits).length ≤ k ↔ digits < 10 ^ k :=
    Nat.length_toDigits_le_iff (by norm_num) hk
  have hpos : 0 < (Nat.toDigits 10 digits).length := Nat.length_toDigits_pos
  generalize (Nat.toDigits 10 digits).length = n at hlength hpos
  obtain ⟨k, rfl⟩ := Nat.exists_eq_add_one_of_ne_zero hpos.ne'
  have hlow : 10 ^ k ≤ digits := by
    cases k with
    | zero => exact Nat.pos_of_ne_zero hdigits
    | succ k => exact not_lt.mp ((hlength (k + 1) k.succ_pos).not.mp (by omega))
  have hhigh : digits < 10 ^ (k + 1) := (hlength (k + 1) hpos).mp le_rfl
  have hlow' : (10 : ℚ) ^ (k : ℤ) ≤ digits := by exact_mod_cast hlow
  have hhigh' : (digits : ℚ) < 10 ^ ((k + 1 : ℕ) : ℤ) := by exact_mod_cast hhigh
  have hlast : ((k + 1 : ℕ) : ℤ) + e - 1 = k + e := by omega
  rw [hlast, zpow_add₀ (by norm_num), zpow_add₀ (by norm_num)]
  exact ⟨mul_le_mul_of_nonneg_right hlow' (by positivity),
    mul_lt_mul_of_pos_right hhigh' (by positivity)⟩

theorem two_zpow_le : (2 : ℚ) ^ (1200 : ℤ) ≤ 10 ^ (400 : ℤ) :=
  calc (2 : ℚ) ^ (1200 : ℤ) = (2 ^ (3 : ℤ)) ^ (400 : ℤ) := zpow_mul 2 3 400
    _ ≤ 10 ^ (400 : ℤ) := zpow_le_zpow_left₀ (by norm_num) (by norm_num) (by norm_num)

/-- A decimal is rounded, those that are far too large or too small as all others. -/
theorem toRat?_ofDecimal_iff (negative : Bool) (digits : ℕ) (e : ℤ) :
    (ofDecimal negative digits e).toRat? = some w ↔
      Rounds (signed negative (digits * 10 ^ e)) w ∧ |w| < 2 ^ (1024 : ℤ) := by
  by_cases hdigits : digits = 0
  · rw [hdigits, Nat.cast_zero, zero_mul, ← toRat?_zero_iff]
    rfl
  · obtain ⟨hlow, hhigh⟩ := decimal_bounds hdigits e
    have habs : |signed negative (digits * 10 ^ e)| = digits * 10 ^ e :=
      abs_signed negative (by positivity)
    rw [ofDecimal, if_neg hdigits]
    simp only
    split_ifs with hlarge hsmall
    · have hoverflow : (2 : ℚ) ^ (1024 : ℤ) ≤ |signed negative (digits * 10 ^ e)| := by
        rw [habs]
        calc (2 : ℚ) ^ (1024 : ℤ) ≤ 2 ^ (1200 : ℤ) :=
              zpow_le_zpow_right₀ (by norm_num) (by norm_num)
          _ ≤ 10 ^ (400 : ℤ) := two_zpow_le
          _ ≤ 10 ^ (((Nat.toDigits 10 digits).length : ℤ) + e - 1) :=
            zpow_le_zpow_right₀ (by norm_num) (by omega)
          _ ≤ digits * 10 ^ e := hlow
      constructor
      · intro h
        cases h
      · rintro ⟨hrounds, hlt⟩
        exact absurd (hrounds.le_abs hoverflow) (not_le.mpr hlt)
    · have hunderflow : |signed negative (digits * 10 ^ e)| < 2 ^ (-1075 : ℤ) := by
        rw [habs]
        calc (digits : ℚ) * 10 ^ e < 10 ^ (((Nat.toDigits 10 digits).length : ℤ) + e) := hhigh
          _ ≤ 10 ^ (-400 : ℤ) := zpow_le_zpow_right₀ (by norm_num) (by omega)
          _ ≤ 2 ^ (-1200 : ℤ) := by
            rw [zpow_neg, zpow_neg]
            exact inv_anti₀ (by positivity) two_zpow_le
          _ ≤ 2 ^ (-1075 : ℤ) := zpow_le_zpow_right₀ (by norm_num) (by norm_num)
      have hzero : |(0 : ℚ)| < 2 ^ (-1075 : ℤ) := by
        rw [abs_zero]
        positivity
      rw [toRat?_zero_iff, signed_zero, rounds_iff_of_small hunderflow, rounds_iff_of_small hzero]
    · have hratio : (digits : ℚ) * 10 ^ e =
          (digits * Nat.pow 10 e.toNat : ℕ) / (Nat.pow 10 (-e).toNat : ℕ) := by
        obtain ⟨n, rfl | rfl⟩ := e.eq_nat_or_neg
        · simp
        · simp [div_eq_mul_inv]
      rw [hratio]
      exact toRat?_ofRatio_iff negative _ (Nat.pow_pos (by norm_num))

/-! ### Products and quotients -/

section Arithmetic

variable {x y : Binary64}

/-- A product is rounded from the exact one. -/
theorem toRat?_mul_iff {u : ℚ} (hx : x.toRat? = some v) (hy : y.toRat? = some u) :
    (x.mul y).toRat? = some w ↔ Rounds (v * u) w ∧ |w| < 2 ^ (1024 : ℤ) := by
  obtain ⟨s, m, q, rfl, rfl⟩ := exists_of_toRat? hx
  obtain ⟨t, n, r, rfl, rfl⟩ := exists_of_toRat? hy
  have hvalue : (((ratio m q).1 * (ratio n r).1 : ℕ) : ℚ) / ((ratio m q).2 * (ratio n r).2 : ℕ) =
      m * 2 ^ q * (n * 2 ^ r) := by
    rw [← ratio_div, ← ratio_div, div_mul_div_comm]
    push_cast
    rfl
  rw [signed_mul, ← hvalue]
  exact toRat?_ofRatio_iff _ _ (Nat.mul_pos (ratio_snd_pos m q) (ratio_snd_pos n r))

theorem toRat?_div_iff {u : ℚ} (hx : x.toRat? = some v) (hy : y.toRat? = some u) (hu : u ≠ 0) :
    (x.div y).toRat? = some w ↔ Rounds (v / u) w ∧ |w| < 2 ^ (1024 : ℤ) := by
  obtain ⟨s, m, q, rfl, rfl⟩ := exists_of_toRat? hx
  obtain ⟨t, n, r, rfl, rfl⟩ := exists_of_toRat? hy
  have hn : n ≠ 0 := by
    rintro rfl
    simp [signed_zero] at hu
  have hvalue : (((ratio m q).1 * (ratio n r).2 : ℕ) : ℚ) / ((ratio m q).2 * (ratio n r).1 : ℕ) =
      m * 2 ^ q / (n * 2 ^ r) := by
    rw [← ratio_div, ← ratio_div, div_div_div_eq]
    push_cast
    rfl
  have hpos : 0 < (ratio n r).1 := Nat.mul_pos (Nat.pos_of_ne_zero hn) (Nat.two_pow_pos _)
  rw [signed_div, ← hvalue, div, if_neg hn]
  exact toRat?_ofRatio_iff _ _ (Nat.mul_pos (ratio_snd_pos m q) hpos)

end Arithmetic

end Binary64
end RuleGraph
