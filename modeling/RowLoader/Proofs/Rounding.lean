import Mathlib.Data.Rat.Defs
import Mathlib.Tactic
import RowLoader.Number.Binary64

/-!
What rounding keeps. A decimal is rounded to a binary number of 64 bits; the binary number stands for
the same rational as the decimal where some binary number does, and nowhere else.
-/

namespace RowLoader.Number

def signed (negative : Bool) (q : ℚ) : ℚ :=
  if negative then -q else q

/-- The rational that a binary number stands for, unless it is no number. -/
def Binary64.value? : Binary64 → Option ℚ
  | .finite negative m e => some (signed negative (m * 2 ^ e))
  | _ => none

def Decimal.value? : Decimal → Option ℚ
  | .finite negative c e => some (signed negative (c * 10 ^ e))
  | _ => none

/-- Some binary number of 64 bits stands for the rational: at most 53 bits, of which the last one has an
exponent from -1074 to 971. -/
def IsBinary (q : ℚ) : Prop :=
  ∃ (m : ℤ) (e : ℤ), |m| < 2 ^ 53 ∧ -1074 ≤ e ∧ e ≤ 971 ∧ q = m * 2 ^ e

theorem isBinary_zero : IsBinary 0 :=
  ⟨0, 0, by norm_num, by norm_num, by norm_num, by norm_num⟩

theorem isBinary_neg {q : ℚ} (binary : IsBinary q) : IsBinary (-q) := by
  obtain ⟨m, e, small, low, high, rfl⟩ := binary
  exact ⟨-m, e, by rwa [abs_neg], low, high, by push_cast; ring⟩

theorem isBinary_signed {negative : Bool} {q : ℚ} : IsBinary (signed negative q) ↔ IsBinary q := by
  cases negative with
  | false => rfl
  | true => exact ⟨fun binary => neg_neg q ▸ isBinary_neg binary, isBinary_neg⟩

theorem isBinary_of_nat {m : Nat} {e : ℤ} (small : m < 2 ^ 53) (low : -1074 ≤ e) (high : e ≤ 971) :
    IsBinary (m * 2 ^ e) := by
  refine ⟨m, e, ?_, low, high, by norm_cast⟩
  rw [abs_of_nonneg (Int.natCast_nonneg m)]
  exact_mod_cast small

theorem isBinary_nonneg {q : ℚ} (nonneg : 0 ≤ q) (binary : IsBinary q) :
    ∃ (m : Nat) (e : ℤ), m < 2 ^ 53 ∧ -1074 ≤ e ∧ e ≤ 971 ∧ q = m * 2 ^ e := by
  obtain ⟨m, e, small, low, high, rfl⟩ := binary
  have power : (0 : ℚ) < 2 ^ e := by positivity
  have sign : 0 ≤ m := by
    have := nonneg_of_mul_nonneg_left nonneg power
    exact_mod_cast this
  obtain ⟨n, rfl⟩ := Int.eq_ofNat_of_zero_le sign
  refine ⟨n, e, ?_, low, high, by norm_cast⟩
  rw [abs_of_nonneg sign] at small
  exact_mod_cast small

theorem scaled_spec {base den : Nat} (pos : 0 < base) (whole : 0 < den) (e : Int) (num : Nat) :
    0 < (scaled base e num den).2 ∧
      ((scaled base e num den).1 : ℚ) / (scaled base e num den).2 = num / den * (base : ℚ) ^ e := by
  unfold scaled
  have base0 : (base : ℚ) ≠ 0 := by positivity
  split
  · rename_i nonneg
    obtain ⟨n, rfl⟩ := Int.eq_ofNat_of_zero_le nonneg
    refine ⟨whole, ?_⟩
    rw [Int.toNat_natCast, Nat.pow_eq, zpow_natCast]
    push_cast
    ring
  · rename_i negative
    obtain ⟨n, rfl⟩ : ∃ n : Nat, e = -(n : Int) := ⟨(-e).toNat, by omega⟩
    refine ⟨Nat.mul_pos whole (Nat.pow_pos pos), ?_⟩
    rw [neg_neg, Int.toNat_natCast, Nat.pow_eq, zpow_neg, zpow_natCast]
    push_cast
    field_simp

theorem pow_log2_le {n : Nat} (pos : 0 < n) : (2 : ℚ) ^ (n.log2 : ℤ) ≤ n := by
  rw [zpow_natCast]
  exact_mod_cast Nat.log2_self_le (Nat.pos_iff_ne_zero.mp pos)

theorem lt_pow_log2 (n : Nat) : (n : ℚ) < 2 ^ ((n.log2 : ℤ) + 1) := by
  rw [show ((n.log2 : ℤ) + 1) = ((n.log2 + 1 : Nat) : ℤ) by push_cast; ring, zpow_natCast]
  exact_mod_cast Nat.lt_log2_self

/-- A fraction is within a factor of two of the power of the difference of its logarithms. -/
theorem log2_bracket {num den : Nat} (filled : 0 < num) (whole : 0 < den) :
    (2 : ℚ) ^ ((num.log2 : ℤ) - den.log2 - 1) ≤ num / den ∧
      (num / den : ℚ) < 2 ^ ((num.log2 : ℤ) - den.log2 + 1) := by
  have den0 : (0 : ℚ) < den := by exact_mod_cast whole
  have two0 : (2 : ℚ) ≠ 0 := by norm_num
  constructor
  · rw [le_div_iff₀ den0]
    calc (2 : ℚ) ^ ((num.log2 : ℤ) - den.log2 - 1) * den
        ≤ 2 ^ ((num.log2 : ℤ) - den.log2 - 1) * 2 ^ ((den.log2 : ℤ) + 1) := by
          gcongr
          exact (lt_pow_log2 den).le
      _ = 2 ^ (num.log2 : ℤ) := by rw [← zpow_add₀ two0]; congr 1; ring
      _ ≤ num := pow_log2_le filled
  · rw [div_lt_iff₀ den0]
    calc (num : ℚ) < 2 ^ ((num.log2 : ℤ) + 1) := lt_pow_log2 num
      _ = 2 ^ ((num.log2 : ℤ) - den.log2 + 1) * 2 ^ (den.log2 : ℤ) := by
        rw [← zpow_add₀ two0]; congr 1; ring
      _ ≤ 2 ^ ((num.log2 : ℤ) - den.log2 + 1) * den := by
        gcongr
        exact pow_log2_le whole

/-- A fraction lies between the power of its leading bit and the next one. -/
theorem leadingBit_spec {num den : Nat} (filled : 0 < num) (whole : 0 < den) :
    (2 : ℚ) ^ Binary64.leadingBit num den ≤ num / den ∧
      (num / den : ℚ) < 2 ^ (Binary64.leadingBit num den + 1) := by
  obtain ⟨below, above⟩ := log2_bracket filled whole
  obtain ⟨scale, ratio⟩ := scaled_spec (by decide : 0 < 2) whole
    (-((num.log2 : ℤ) - den.log2)) num
  unfold Binary64.leadingBit
  dsimp only
  generalize scaled 2 (-((num.log2 : ℤ) - den.log2)) num den = pair at *
  obtain ⟨a, b⟩ := pair
  dsimp only at *
  have b0 : (0 : ℚ) < b := by exact_mod_cast scale
  -- the test of the leading bit compares the fraction with the power of the difference
  have test : b ≤ a ↔ (2 : ℚ) ^ ((num.log2 : ℤ) - den.log2) ≤ num / den := by
    have cast : b ≤ a ↔ (b : ℚ) ≤ a := Nat.cast_le.symm
    rw [cast, ← one_le_div₀ b0, ratio, zpow_neg, ← div_eq_mul_inv]
    push_cast
    rw [one_le_div₀ (by positivity)]
  split
  · rename_i reached
    exact ⟨test.mp reached, above⟩
  · rename_i missed
    refine ⟨below, ?_⟩
    rw [sub_add_cancel]
    exact not_le.mp fun reached => missed (test.mpr reached)

theorem roundHalfEven_mul (n : Nat) {den : Nat} (whole : 0 < den) :
    roundHalfEven (n * den) den = n := by
  unfold roundHalfEven
  rw [Nat.mul_div_cancel _ whole, Nat.mul_mod_left]
  simp [whole]

theorem roundHalfEven_le (num den : Nat) : roundHalfEven num den ≤ num / den + 1 := by
  unfold roundHalfEven
  dsimp only
  split
  · omega
  · split <;> omega

namespace Binary64

theorem value?_zero (negative : Bool) : (zero negative).value? = some (signed negative 0) := by
  simp [zero, value?]

theorem isBinary_of_value?_zero {negative : Bool} {q : ℚ}
    (found : (zero negative).value? = some q) : IsBinary q := by
  rw [value?_zero] at found
  cases found
  exact isBinary_signed.mpr isBinary_zero

theorem normalize_of_lt {m : Nat} (less : m < 2 ^ 53) (negative : Bool) (e : Int) :
    normalize negative m e = if 971 < e then .infinite negative else .finite negative m e := by
  have incomplete : m ≠ Nat.pow 2 53 := Nat.ne_of_lt less
  unfold normalize
  rw [if_neg incomplete]
  rfl

theorem normalize_full (negative : Bool) (e : Int) : normalize negative (2 ^ 53) e =
    if 971 < e + 1 then .infinite negative else .finite negative (2 ^ 52) (e + 1) := rfl

theorem isBinary_normalize {negative : Bool} {m : Nat} {e : Int} (small : m ≤ 2 ^ 53)
    (low : -1074 ≤ e) {q : ℚ} (found : (normalize negative m e).value? = some q) : IsBinary q := by
  rcases Nat.lt_or_eq_of_le small with less | rfl
  · rw [normalize_of_lt less] at found
    split at found
    · cases found
    · rename_i within
      cases found
      exact isBinary_signed.mpr (isBinary_of_nat less low (by omega))
  · rw [normalize_full] at found
    split at found
    · cases found
    · rename_i within
      cases found
      exact isBinary_signed.mpr (isBinary_of_nat (by norm_num) (by omega) (by omega))

/-- The exponent of the last bit of a fraction that is rounded. -/
def lastExponent (num den : Nat) : Int :=
  max (leadingBit num den - 52) leastExponent

/-- Scaled by its last exponent a fraction has at most 53 bits before the point. -/
theorem scaled_lt {num den : Nat} (filled : 0 < num) (whole : 0 < den) :
    (num / den : ℚ) * 2 ^ (-lastExponent num den) < 2 ^ 53 := by
  have bound := (leadingBit_spec filled whole).2
  have exponents : leadingBit num den + 1 ≤ 53 + lastExponent num den := by
    unfold lastExponent
    omega
  have power : (0 : ℚ) < 2 ^ lastExponent num den := by positivity
  rw [zpow_neg, ← div_eq_mul_inv, div_lt_iff₀ power]
  calc (num / den : ℚ) < 2 ^ (leadingBit num den + 1) := bound
    _ ≤ 2 ^ (53 + lastExponent num den) := zpow_le_zpow_right₀ (by norm_num) exponents
    _ = 2 ^ 53 * 2 ^ lastExponent num den := by
      rw [zpow_add₀ (by norm_num)]
      norm_cast

/-- A fraction that is a binary number is a multiple of the power of its last exponent. -/
theorem exists_multiple {num den : Nat} (filled : 0 < num) (whole : 0 < den)
    (binary : IsBinary (num / den)) :
    lastExponent num den ≤ 971 ∧ ∃ n : Nat, (num / den : ℚ) = n * 2 ^ lastExponent num den := by
  have two : (1 : ℚ) < 2 := by norm_num
  obtain ⟨lower, _⟩ := leadingBit_spec filled whole
  obtain ⟨m, e, small, low, high, same⟩ := isBinary_nonneg (by positivity) binary
  have power : (0 : ℚ) < 2 ^ e := by positivity
  have bits : leadingBit num den < 53 + e := by
    have below : (2 : ℚ) ^ leadingBit num den < 2 ^ (53 + e) := by
      calc (2 : ℚ) ^ leadingBit num den ≤ m * 2 ^ e := same ▸ lower
        _ < 2 ^ 53 * 2 ^ e := by
          gcongr
          exact_mod_cast small
        _ = 2 ^ (53 + e) := by
          rw [zpow_add₀ (by norm_num)]
          norm_cast
    exact (zpow_lt_zpow_iff_right₀ two).mp below
  have reach : lastExponent num den ≤ e := by
    unfold lastExponent leastExponent
    omega
  refine ⟨reach.trans high, m * 2 ^ (e - lastExponent num den).toNat, ?_⟩
  rw [same]
  push_cast
  rw [mul_assoc, ← zpow_natCast, ← zpow_add₀ (by norm_num)]
  congr 2
  omega

theorem ofRatio_of_pos (negative : Bool) {num : Nat} (filled : 0 < num) (den : Nat) :
    ofRatio negative num den = normalize negative
      (roundHalfEven (scaled 2 (-lastExponent num den) num den).1
        (scaled 2 (-lastExponent num den) num den).2) (lastExponent num den) := by
  unfold ofRatio
  rw [if_neg (Nat.pos_iff_ne_zero.mp filled)]
  rfl

/-- A fraction that is a binary number is not changed by rounding, and what it is rounded to is a binary
number or infinite. -/
theorem ofRatio_spec (negative : Bool) (num : Nat) {den : Nat} (whole : 0 < den) :
    (∀ q, (ofRatio negative num den).value? = some q → IsBinary q) ∧
      (IsBinary (num / den) →
        (ofRatio negative num den).value? = some (signed negative (num / den))) := by
  rcases Nat.eq_zero_or_pos num with rfl | filled
  · have empty : ofRatio negative 0 den = zero negative := if_pos rfl
    rw [empty]
    refine ⟨fun q found => isBinary_of_value?_zero found, fun _ => ?_⟩
    rw [value?_zero]
    simp
  · rw [ofRatio_of_pos negative filled]
    obtain ⟨scale, ratio⟩ := scaled_spec (by decide : 0 < 2) whole (-lastExponent num den) num
    have below := scaled_lt filled whole
    rw [show ((2 : Nat) : ℚ) = 2 by norm_cast] at ratio
    rw [← ratio] at below
    generalize scaled 2 (-lastExponent num den) num den = pair at *
    obtain ⟨a, b⟩ := pair
    dsimp only at *
    have scale0 : (0 : ℚ) < b := by exact_mod_cast scale
    rw [div_lt_iff₀ scale0] at below
    have bounded : a < 2 ^ 53 * b := by exact_mod_cast below
    constructor
    · -- at most 53 bits stand before the point, and rounding up may fill one more
      intro q
      refine isBinary_normalize ?_ ?_
      · have quotient := Nat.div_lt_of_lt_mul (Nat.mul_comm _ b ▸ bounded)
        have rounded := roundHalfEven_le a b
        omega
      · unfold lastExponent leastExponent
        omega
    · -- the scaled fraction is an integer, so nothing is rounded
      intro binary
      obtain ⟨within, n, multiple⟩ := exists_multiple filled whole binary
      have scaled : a = n * b := by
        have power : (2 : ℚ) ^ lastExponent num den ≠ 0 := by positivity
        rw [multiple, mul_assoc, ← zpow_add₀ (by norm_num), add_neg_cancel, zpow_zero, mul_one,
          div_eq_iff scale0.ne'] at ratio
        exact_mod_cast ratio
      have less : n < 2 ^ 53 := by
        rw [scaled] at bounded
        exact Nat.lt_of_mul_lt_mul_right bounded
      rw [scaled, roundHalfEven_mul n scale, normalize_of_lt less, if_neg (by omega), multiple]
      rfl

end Binary64

theorem adjusted_spec {c : Nat} (filled : 0 < c) (e : Int) :
    (10 : ℚ) ^ Decimal.adjusted c e ≤ c * 10 ^ e ∧
      (c * 10 ^ e : ℚ) < 10 ^ (Decimal.adjusted c e + 1) := by
  have ten0 : (10 : ℚ) ≠ 0 := by norm_num
  have some : 0 < (Text.digitsOf c).length := Nat.length_toDigits_pos
  obtain ⟨k, length⟩ := Nat.exists_eq_succ_of_ne_zero (Nat.pos_iff_ne_zero.mp some)
  have upper : c < 10 ^ (k + 1) :=
    (Nat.length_toDigits_le_iff (by decide) (Nat.succ_pos k)).mp (Nat.le_of_eq length)
  have lower : 10 ^ k ≤ c := by
    rcases Nat.eq_zero_or_pos k with rfl | positive
    · exact filled
    · refine Nat.le_of_not_lt fun less => ?_
      have shorter : (Text.digitsOf c).length ≤ k :=
        (Nat.length_toDigits_le_iff (by decide) positive).mpr less
      omega
  have first : Decimal.adjusted c e = k + e := by
    unfold Decimal.adjusted
    omega
  rw [first, show (k : ℤ) + e + 1 = ((k + 1 : Nat) : ℤ) + e by push_cast; ring, zpow_add₀ ten0,
    zpow_add₀ ten0, zpow_natCast, zpow_natCast]
  have power : (0 : ℚ) < 10 ^ e := by positivity
  constructor
  · gcongr
    exact_mod_cast lower
  · gcongr
    exact_mod_cast upper

/-- No binary number but zero lies closer to zero than the least one, or as far away as the first that
is infinite. -/
theorem isBinary_bounds {q : ℚ} (positive : 0 < q) (binary : IsBinary q) :
    2 ^ (-1074 : ℤ) ≤ q ∧ q < 2 ^ (1024 : ℤ) := by
  obtain ⟨m, e, small, low, high, rfl⟩ := isBinary_nonneg positive.le binary
  have power : (0 : ℚ) < 2 ^ e := by positivity
  have filled : (1 : ℚ) ≤ m := by
    rcases Nat.eq_zero_or_pos m with rfl | some
    · simp at positive
    · exact_mod_cast some
  constructor
  · calc (2 : ℚ) ^ (-1074 : ℤ) ≤ 2 ^ e := zpow_le_zpow_right₀ (by norm_num) low
      _ ≤ m * 2 ^ e := le_mul_of_one_le_left power.le filled
  · calc (m : ℚ) * 2 ^ e < 2 ^ 53 * 2 ^ e := by
          gcongr
          exact_mod_cast small
      _ ≤ 2 ^ 53 * 2 ^ (971 : ℤ) := by
          gcongr
          norm_num
      _ = 2 ^ (1024 : ℤ) := by
          rw [show (2 : ℚ) ^ 53 = 2 ^ (53 : ℤ) by norm_cast, ← zpow_add₀ (by norm_num)]
          rfl

theorem two_pow_lt_ten_pow : (2 : ℚ) ^ (1074 : ℤ) < 10 ^ (400 : ℤ) := by
  calc (2 : ℚ) ^ (1074 : ℤ) = (2 ^ (3 : ℤ)) ^ (358 : ℤ) := by rw [← zpow_mul]; rfl
    _ < 10 ^ (358 : ℤ) := zpow_lt_zpow_left₀ (by norm_num) (by norm_num) (by norm_num)
    _ ≤ 10 ^ (400 : ℤ) := zpow_le_zpow_right₀ (by norm_num) (by norm_num)

theorem adjusted_of_isBinary {c : Nat} (filled : 0 < c) {e : Int} (binary : IsBinary (c * 10 ^ e)) :
    -400 ≤ Decimal.adjusted c e ∧ Decimal.adjusted c e ≤ 400 := by
  have ten : (1 : ℚ) < 10 := by norm_num
  have c0 : (0 : ℚ) < c := by exact_mod_cast filled
  obtain ⟨lower, upper⟩ := adjusted_spec filled e
  obtain ⟨least, greatest⟩ := isBinary_bounds (by positivity) binary
  have low : -400 < Decimal.adjusted c e + 1 := by
    refine (zpow_lt_zpow_iff_right₀ ten).mp ?_
    calc (10 : ℚ) ^ (-400 : ℤ) < 2 ^ (-1074 : ℤ) := by
          rw [zpow_neg, zpow_neg, inv_lt_inv₀ (by positivity) (by positivity)]
          exact two_pow_lt_ten_pow
      _ ≤ c * 10 ^ e := least
      _ < 10 ^ (Decimal.adjusted c e + 1) := upper
  have high : Decimal.adjusted c e < 400 := by
    refine (zpow_lt_zpow_iff_right₀ ten).mp ?_
    calc (10 : ℚ) ^ Decimal.adjusted c e ≤ c * 10 ^ e := lower
      _ < 2 ^ (1024 : ℤ) := greatest
      _ ≤ 2 ^ (1074 : ℤ) := zpow_le_zpow_right₀ (by norm_num) (by norm_num)
      _ < 10 ^ (400 : ℤ) := two_pow_lt_ten_pow
  omega

/-- A decimal that a binary number stands for is not changed by rounding, and what it is rounded to is a
binary number or infinite. -/
theorem ofFinite_spec (negative : Bool) (c : Nat) (e : Int) :
    (∀ q, (Binary64.ofFinite negative c e).value? = some q → IsBinary q) ∧
      (IsBinary (c * 10 ^ e) → (Binary64.ofFinite negative c e).value? =
        some (signed negative (c * 10 ^ e))) := by
  unfold Binary64.ofFinite
  dsimp only
  by_cases tiny : c = 0 ∨ Decimal.adjusted c e < -400
  · rw [if_pos tiny]
    refine ⟨fun q found => Binary64.isBinary_of_value?_zero found, fun binary => ?_⟩
    rcases Nat.eq_zero_or_pos c with rfl | filled
    · rw [Binary64.value?_zero]
      simp
    · have low := tiny.resolve_left (Nat.pos_iff_ne_zero.mp filled)
      exact absurd (adjusted_of_isBinary filled binary).1 (Int.not_le.mpr low)
  · rw [if_neg tiny]
    have filled := Nat.pos_of_ne_zero (not_or.mp tiny).1
    by_cases huge : 400 < Decimal.adjusted c e
    · rw [if_pos huge]
      refine ⟨?_, fun binary => ?_⟩
      · intro q same
        cases same
      · exact absurd (adjusted_of_isBinary filled binary).2 (Int.not_le.mpr huge)
    · rw [if_neg huge]
      obtain ⟨scale, ratio⟩ := scaled_spec (by decide : 0 < 10) Nat.one_pos e c
      rw [Nat.cast_one, div_one, show ((10 : Nat) : ℚ) = 10 by norm_cast] at ratio
      have spec := Binary64.ofRatio_spec negative (scaled 10 e c 1).1 scale
      rw [ratio] at spec
      exact spec

theorem ofFinite_value?_iff (negative : Bool) (c : Nat) (e : Int) :
    (Binary64.ofFinite negative c e).value? = (Decimal.finite negative c e).value? ↔
      IsBinary (signed negative (c * 10 ^ e)) := by
  obtain ⟨binary, exact⟩ := ofFinite_spec negative c e
  exact ⟨fun same => binary _ same, fun held => exact (isBinary_signed.mp held)⟩

end RowLoader.Number
