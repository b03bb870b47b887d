/-
  LanguageBlueprint/Proofs/Number/Rounding.lean
  =============================================
  **How far a rounded quotient is off.**  A quotient of at least one is rounded to
  a double whose mantissa has 53 binary digits, so that the double differs from
  it by at most one part in `2 ^ 53`.  Quotients well below `2 ^ 1024` have a
  double, and those well above have none.

    * the exponent                — `exponentFor_spec`;
    * the error                   — `ofRatio?_error`;
    * the range                   — `ofRatio?_isSome`, `ofRatio?_eq_none`.
-/
import LanguageBlueprint.Number.Binary64
import Mathlib.Algebra.Order.Field.Power
import Mathlib.Data.Nat.Cast.Field
import Mathlib.Data.Nat.Log
import Mathlib.Data.Rat.Cast.Order
import Mathlib.Tactic.FieldSimp
import Mathlib.Tactic.Linarith
import Mathlib.Tactic.NormNum
import Mathlib.Tactic.Positivity
import Mathlib.Tactic.Ring

namespace LanguageBlueprint.Number

/-! ### Rounding to an integer -/

/-- The nearest integer is off by at most a half. -/
theorem divHalfEven_error (num : Nat) {den : Nat} (hden : 0 < den) :
    |(divHalfEven num den : ℚ) - (num : ℚ) / den| ≤ 1 / 2 := by
  have hpos : (0 : ℚ) < den := by exact_mod_cast hden
  have hsplit : (num : ℚ) / den = (num / den : Nat) + (num % den : Nat) / (den : ℚ) := by
    rw [add_div' _ _ _ hpos.ne', div_left_inj' hpos.ne']
    exact_mod_cast (Nat.div_add_mod' num den).symm
  have hrest : ((num % den : Nat) : ℚ) / den < 1 := by
    rw [div_lt_one hpos]
    exact_mod_cast Nat.mod_lt num hden
  have hnonneg : (0 : ℚ) ≤ ((num % den : Nat) : ℚ) / den := by positivity
  rw [hsplit, divHalfEven]
  split
  · rename_i hmore
    have : (1 : ℚ) / 2 < ((num % den : Nat) : ℚ) / den := by
      rw [lt_div_iff₀ hpos]
      have : (den : ℚ) < 2 * (num % den : Nat) := by exact_mod_cast hmore
      linarith
    push_cast
    rw [abs_le]
    constructor <;> linarith
  · rename_i hless
    have hhalf : ((num % den : Nat) : ℚ) / den ≤ 1 / 2 := by
      rw [div_le_iff₀ hpos]
      have : (2 * (num % den : Nat) : ℚ) ≤ den := by exact_mod_cast not_lt.mp hless
      linarith
    split
    · rename_i htie
      have : (1 : ℚ) / 2 ≤ ((num % den : Nat) : ℚ) / den := by
        rw [le_div_iff₀ hpos]
        have : (2 * (num % den : Nat) : ℚ) = den := by exact_mod_cast htie.1
        linarith
      push_cast
      rw [abs_le]
      constructor <;> linarith
    · rw [abs_le]
      constructor <;> linarith

/-! ### The value of a magnitude -/

namespace Magnitude

/-- The number that the magnitude stands for. -/
def value (d : Magnitude) : ℚ := d.mantissa * 2 ^ d.exponent

theorem num_div_den (d : Magnitude) : (d.num : ℚ) / d.den = d.value := by
  rcases Int.le_total 0 d.exponent with h | h
  · obtain ⟨e, he⟩ := Int.eq_ofNat_of_zero_le h
    simp [num, den, value, he, Nat.shiftLeft_eq]
  · obtain ⟨e, he⟩ : ∃ e : Nat, d.exponent = -(e : Int) := ⟨(-d.exponent).toNat, by omega⟩
    simp [num, den, value, he, Nat.shiftLeft_eq, div_eq_mul_inv]

theorem den_pos (d : Magnitude) : 0 < d.den := by
  simp [den, Nat.shiftLeft_eq]

/-- Shifting by an exponent, to the left or to the right, divides by a power of two. -/
theorem shifted_div (num den : Nat) (e : Int) :
    ((num <<< (-e).toNat : Nat) : ℚ) / ((den <<< e.toNat : Nat) : ℚ) = (num : ℚ) / den / 2 ^ e := by
  rcases Int.le_total 0 e with h | h
  · obtain ⟨n, rfl⟩ := Int.eq_ofNat_of_zero_le h
    simp [Nat.shiftLeft_eq, div_div]
  · obtain ⟨n, rfl⟩ : ∃ n : Nat, e = -(n : Int) := ⟨(-e).toNat, by omega⟩
    simp [Nat.shiftLeft_eq, mul_div_right_comm]

/-! ### The exponent -/

/-- The binary digits of a numerator and a denominator bound the quotient. -/
theorem quotient_bracket {num den : Nat} (hnum : 0 < num) (hden : 0 < den) :
    (2 : ℚ) ^ ((num.log2 : Int) - den.log2 - 1) < (num : ℚ) / den ∧
      (num : ℚ) / den < 2 ^ ((num.log2 : Int) - den.log2 + 1) := by
  have hpos : (0 : ℚ) < den := by exact_mod_cast hden
  have hnumlow : (2 : ℚ) ^ num.log2 ≤ num := by exact_mod_cast Nat.log2_self_le hnum.ne'
  have hnumhigh : (num : ℚ) < 2 ^ (num.log2 + 1) := by
    exact_mod_cast (Nat.lt_log2_self : num < 2 ^ (num.log2 + 1))
  have hdenlow : (2 : ℚ) ^ den.log2 ≤ den := by exact_mod_cast Nat.log2_self_le hden.ne'
  have hdenhigh : (den : ℚ) < 2 ^ (den.log2 + 1) := by
    exact_mod_cast (Nat.lt_log2_self : den < 2 ^ (den.log2 + 1))
  have htwo : (2 : ℚ) ≠ 0 := by norm_num
  constructor
  · rw [lt_div_iff₀ hpos]
    calc (2 : ℚ) ^ ((num.log2 : Int) - den.log2 - 1) * den
        < 2 ^ ((num.log2 : Int) - den.log2 - 1) * 2 ^ (den.log2 + 1) := by gcongr
      _ = 2 ^ num.log2 := by
          rw [← zpow_natCast, ← zpow_natCast, ← zpow_add₀ htwo]
          congr 1
          push_cast
          omega
      _ ≤ num := hnumlow
  · rw [div_lt_iff₀ hpos]
    calc (num : ℚ) < 2 ^ (num.log2 + 1) := hnumhigh
      _ = 2 ^ ((num.log2 : Int) - den.log2 + 1) * 2 ^ den.log2 := by
          rw [← zpow_natCast, ← zpow_natCast, ← zpow_add₀ htwo]
          congr 1
          push_cast
          omega
      _ ≤ 2 ^ ((num.log2 : Int) - den.log2 + 1) * den := by gcongr

/-- The test of the estimate compares the quotient with a power of two. -/
theorem wide_iff {num den : Nat} (hden : 0 < den) (e : Int) :
    num <<< (-e).toNat ≥ den <<< (52 + e.toNat) ↔ (2 : ℚ) ^ (52 + e) ≤ (num : ℚ) / den := by
  have hpos : (0 : ℚ) < den := by exact_mod_cast hden
  have hshift : (0 : ℚ) < (den <<< e.toNat : Nat) := by
    rw [Nat.shiftLeft_eq]
    positivity
  have hquotient := shifted_div num den e
  calc num <<< (-e).toNat ≥ den <<< (52 + e.toNat)
      ↔ (2 : ℚ) ^ 52 * (den <<< e.toNat : Nat) ≤ (num <<< (-e).toNat : Nat) := by
        rw [Nat.add_comm 52, Nat.shiftLeft_add, Nat.shiftLeft_eq _ 52, mul_comm, ge_iff_le]
        exact_mod_cast Iff.rfl
    _ ↔ (2 : ℚ) ^ 52 ≤ (num : ℚ) / den / 2 ^ e := by rw [← hquotient, le_div_iff₀ hshift]
    _ ↔ (2 : ℚ) ^ (52 + e) ≤ (num : ℚ) / den := by
        rw [le_div_iff₀ (by positivity), zpow_add₀ (by norm_num)]
        exact Iff.rfl

/-- **At the chosen exponent the mantissa has 53 binary digits**, for a quotient of at least one. -/
theorem exponentFor_spec {num den : Nat} (hden : 0 < den) (h : den ≤ num) :
    (2 : ℚ) ^ (52 + exponentFor num den) ≤ (num : ℚ) / den ∧
      (num : ℚ) / den < 2 ^ (53 + exponentFor num den) := by
  obtain ⟨hlow, hhigh⟩ := quotient_bracket (Nat.lt_of_lt_of_le hden h) hden
  have hlog : den.log2 ≤ num.log2 := by
    rw [Nat.log2_eq_log_two, Nat.log2_eq_log_two]
    exact Nat.log_mono_right h
  have hwide := @wide_iff num den hden ((num.log2 : Int) - den.log2 - 52)
  have hone : (52 : Int) + ((num.log2 : Int) - den.log2 - 52 - 1) = num.log2 - den.log2 - 1 := by
    omega
  have htwo : (53 : Int) + ((num.log2 : Int) - den.log2 - 52 - 1) =
      52 + ((num.log2 : Int) - den.log2 - 52) := by
    omega
  have hthree : (53 : Int) + ((num.log2 : Int) - den.log2 - 52) = num.log2 - den.log2 + 1 := by
    omega
  unfold exponentFor
  simp only
  split
  · rename_i htrue
    rw [max_eq_left (by omega), hthree]
    exact ⟨hwide.mp htrue, hhigh⟩
  · rename_i hfalse
    rw [max_eq_left (by omega), hone, htwo]
    exact ⟨hlow.le, not_le.mp (fun hle => hfalse (hwide.mpr hle))⟩

/-! ### The nearest magnitude -/

/-- The mantissa to which a quotient is rounded, before it is brought back to 53 digits. -/
def mantissaFor (num den : Nat) : Nat :=
  divHalfEven (num <<< (-exponentFor num den).toNat) (den <<< (exponentFor num den).toNat)

theorem mantissaFor_error (num : Nat) {den : Nat} (hden : 0 < den) :
    |(mantissaFor num den : ℚ) - (num : ℚ) / den / 2 ^ exponentFor num den| ≤ 1 / 2 := by
  have hshift : 0 < den <<< (exponentFor num den).toNat := by
    rw [Nat.shiftLeft_eq]
    positivity
  rw [← shifted_div]
  exact divHalfEven_error _ hshift

theorem ofRatio?_cases {num den : Nat} (hnum : 0 < num) :
    (mantissaFor num den = 2 ^ 53 ∧
      ofRatio? num den =
        if exponentFor num den + 1 > 971 then none
        else some ⟨2 ^ 52, exponentFor num den + 1⟩) ∨
    (mantissaFor num den ≠ 2 ^ 53 ∧
      ofRatio? num den =
        if exponentFor num den > 971 then none
        else some ⟨mantissaFor num den, exponentFor num den⟩) := by
  have hfull : (1 <<< 53 : Nat) = 2 ^ 53 := by decide
  have hhalf : (1 <<< 52 : Nat) = 2 ^ 52 := by decide
  have hdef : divHalfEven (num <<< (-exponentFor num den).toNat)
      (den <<< (exponentFor num den).toNat) = mantissaFor num den := rfl
  unfold ofRatio?
  simp only [if_neg hnum.ne', hdef, hfull, hhalf]
  by_cases hround : mantissaFor num den = 2 ^ 53
  · left
    simp only [hround, if_true, true_and]
  · right
    simp only [hround, if_false, ne_eq, not_false_eq_true, true_and]

/-- The value of a rounded quotient is its mantissa at the chosen exponent. -/
theorem value_ofRatio? {num den : Nat} (hnum : 0 < num) {d : Magnitude}
    (hd : ofRatio? num den = some d) :
    d.value = mantissaFor num den * 2 ^ exponentFor num den := by
  rcases @ofRatio?_cases num den hnum with ⟨hround, heq⟩ | ⟨-, heq⟩
  · rw [heq] at hd
    split at hd
    · cases hd
    · cases hd
      rw [value, hround, zpow_add₀ (by norm_num)]
      push_cast
      ring
  · rw [heq] at hd
    split at hd
    · cases hd
    · cases hd
      rfl

/-- **A rounded quotient is off by at most one part in `2 ^ 53`.** -/
theorem ofRatio?_error {num den : Nat} (hden : 0 < den) (h : den ≤ num) {d : Magnitude}
    (hd : ofRatio? num den = some d) :
    |d.value - (num : ℚ) / den| ≤ (num : ℚ) / den / 2 ^ 53 := by
  obtain ⟨hlow, -⟩ := exponentFor_spec hden h
  have herror := mantissaFor_error num hden
  rw [value_ofRatio? (by omega) hd]
  generalize exponentFor num den = e at hlow herror ⊢
  generalize (num : ℚ) / den = q at hlow herror ⊢
  have hpos : (0 : ℚ) < 2 ^ e := by positivity
  have hsplit : (mantissaFor num den : ℚ) * 2 ^ e - q = (mantissaFor num den - q / 2 ^ e) * 2 ^ e := by
    field_simp
  have hbound : (2 : ℚ) ^ e * 2 ^ 52 ≤ q := by
    rw [mul_comm, ← zpow_natCast, ← zpow_add₀ (by norm_num)]
    exact hlow
  calc |(mantissaFor num den : ℚ) * 2 ^ e - q|
      = |(mantissaFor num den : ℚ) - q / 2 ^ e| * 2 ^ e := by
        rw [hsplit, abs_mul, abs_of_pos hpos]
    _ ≤ 1 / 2 * 2 ^ e := by gcongr
    _ ≤ q / 2 ^ 53 := by
        rw [le_div_iff₀ (by positivity)]
        calc 1 / 2 * 2 ^ e * (2 : ℚ) ^ 53 = 2 ^ e * 2 ^ 52 := by ring
          _ ≤ q := hbound

/-- A quotient well below `2 ^ 1024` has a double. -/
theorem ofRatio?_isSome {num den : Nat} (hden : 0 < den) (h : den ≤ num)
    (hq : (num : ℚ) / den ≤ 3 / 2 * 2 ^ 1023) : (ofRatio? num den).isSome = true := by
  obtain ⟨hlow, -⟩ := exponentFor_spec hden h
  have hlast : exponentFor num den < 972 := by
    have hpow : (2 : ℚ) ^ (52 + exponentFor num den) < 2 ^ (1024 : Int) := by
      calc (2 : ℚ) ^ (52 + exponentFor num den) ≤ 3 / 2 * 2 ^ 1023 := hlow.trans hq
        _ < 2 * 2 ^ 1023 := by gcongr; norm_num
        _ = 2 ^ (1024 : Int) := (pow_succ' 2 1023).symm
    have := (zpow_lt_zpow_iff_right₀ (by norm_num : (1 : ℚ) < 2)).mp hpow
    omega
  rcases @ofRatio?_cases num den (by omega) with ⟨hround, heq⟩ | ⟨-, heq⟩
  · -- at the greatest exponent the mantissa does not reach `2 ^ 53`
    have hsmall : exponentFor num den < 971 := by
      by_contra hge
      have hexp : exponentFor num den = 971 := by omega
      have herror := (abs_le.mp (mantissaFor_error num hden)).2
      rw [hround, hexp] at herror
      have : (num : ℚ) / den / 2 ^ (971 : Int) ≤ 3 / 2 * 2 ^ 52 := by
        rw [div_le_iff₀ (by positivity)]
        calc (num : ℚ) / den ≤ 3 / 2 * 2 ^ 1023 := hq
          _ = 3 / 2 * 2 ^ 52 * 2 ^ 971 := by rw [mul_assoc, ← pow_add]
      generalize (num : ℚ) / den / 2 ^ (971 : Int) = q at herror this
      push_cast at herror
      norm_num at herror this
      linarith
    rw [heq, if_neg (by omega)]
    rfl
  · rw [heq, if_neg (by omega)]
    rfl

/-- A quotient well above `2 ^ 1024` has no double. -/
theorem ofRatio?_eq_none {num den : Nat} (hden : 0 < den) (h : den ≤ num)
    (hq : (2 : ℚ) ^ 1025 ≤ (num : ℚ) / den) : ofRatio? num den = none := by
  obtain ⟨-, hhigh⟩ := exponentFor_spec hden h
  have hlast : 972 < exponentFor num den := by
    have hpow : (2 : ℚ) ^ (1025 : Int) < 2 ^ (53 + exponentFor num den) :=
      lt_of_le_of_lt (by exact_mod_cast hq) hhigh
    have := (zpow_lt_zpow_iff_right₀ (by norm_num : (1 : ℚ) < 2)).mp hpow
    omega
  rcases @ofRatio?_cases num den (by omega) with ⟨-, heq⟩ | ⟨-, heq⟩
  · rw [heq, if_pos (by omega)]
  · rw [heq, if_pos (by omega)]

/-! ### Products -/

theorem mul_value (a b : Magnitude) :
    ((a.num * b.num : Nat) : ℚ) / ((a.den * b.den : Nat) : ℚ) = a.value * b.value := by
  push_cast
  rw [mul_div_mul_comm, num_div_den, num_div_den]

/-- A product of at least one is a quotient of at least one. -/
theorem den_le_num_of_one_le_mul {a b : Magnitude} (h : 1 ≤ a.value * b.value) :
    a.den * b.den ≤ a.num * b.num := by
  have hpos : (0 : ℚ) < ((a.den * b.den : Nat) : ℚ) := by
    exact_mod_cast Nat.mul_pos a.den_pos b.den_pos
  rw [← mul_value, one_le_div hpos] at h
  exact_mod_cast h

theorem mul?_error {a b d : Magnitude} (h : 1 ≤ a.value * b.value) (hd : a.mul? b = some d) :
    |d.value - a.value * b.value| ≤ a.value * b.value / 2 ^ 53 := by
  rw [← mul_value]
  exact ofRatio?_error (Nat.mul_pos a.den_pos b.den_pos) (den_le_num_of_one_le_mul h) hd

theorem mul?_isSome {a b : Magnitude} (h : 1 ≤ a.value * b.value)
    (hq : a.value * b.value ≤ 3 / 2 * 2 ^ 1023) : (a.mul? b).isSome = true :=
  ofRatio?_isSome (Nat.mul_pos a.den_pos b.den_pos) (den_le_num_of_one_le_mul h)
    (by rwa [mul_value])

theorem mul?_eq_none {a b : Magnitude} (h : (2 : ℚ) ^ 1025 ≤ a.value * b.value) :
    a.mul? b = none := by
  have htwo : (1 : ℚ) ≤ 2 ^ 1025 := one_le_pow₀ one_le_two
  have hone : 1 ≤ a.value * b.value := htwo.trans h
  rw [← mul_value] at h
  exact ofRatio?_eq_none (Nat.mul_pos a.den_pos b.den_pos) (den_le_num_of_one_le_mul hone) h

/-! ### Natural numbers -/

theorem ofNat?_error {n : Nat} (hn : 1 ≤ n) {d : Magnitude} (hd : ofRatio? n 1 = some d) :
    |d.value - n| ≤ (n : ℚ) / 2 ^ 53 := by
  have herror := ofRatio?_error Nat.one_pos hn hd
  rwa [Nat.cast_one, div_one] at herror

theorem ofNat?_isSome {n : Nat} (hn : 1 ≤ n) (hq : (n : ℚ) ≤ 3 / 2 * 2 ^ 1023) :
    (ofRatio? n 1).isSome = true := by
  refine ofRatio?_isSome Nat.one_pos hn ?_
  rwa [Nat.cast_one, div_one]

/-- A magnitude that is a natural number has its value. -/
theorem value_of_toNat? {d : Magnitude} {n : Nat} (h : d.toNat? = some n) : d.value = n := by
  unfold toNat? at h
  split at h
  · rename_i hdvd
    cases h
    have hden : (d.den : ℚ) ≠ 0 := by exact_mod_cast d.den_pos.ne'
    rw [← num_div_den, Nat.cast_div (Nat.dvd_of_mod_eq_zero hdvd) hden]
  · cases h

end Magnitude

end LanguageBlueprint.Number
