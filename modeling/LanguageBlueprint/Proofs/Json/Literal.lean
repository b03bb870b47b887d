/-
  LanguageBlueprint/Proofs/Json/Literal.lean
  ==========================================
  **What becomes of an integer literal.**  A literal of 64 bits, with a sign or
  without, stands for its integer.  Every other one is turned into a double: its
  first digits, as many as fit in 64 bits, are rounded, and scaled by a power of
  ten that is rounded, too.  The 1024 integers below the least one of 64 bits with
  a sign are so close to it that they become it.  All others are far enough from
  the integers of 64 bits, and those that are too large for a double are refused.

    * the first digits                   — `absorb_splits`;
    * how well they are scaled           — `scale_cases`, `scale_lower`;
    * within 64 bits                     — `value?_literal`;
    * just below, and further off        — `value?_near`, `value?_far`;
    * which literals have a value        — `value?_isSome`, `value?_eq_none`.
-/
import LanguageBlueprint.Proofs.Json.Token
import LanguageBlueprint.Proofs.Number.Rounding

namespace LanguageBlueprint

open Number

namespace Numeral

/-! ### Significands -/

theorem digit_le {c : Char} (h : c.isDigit = true) : c.toNat - '0'.toNat ≤ 9 := by
  simp only [Char.isDigit, Bool.and_eq_true, decide_eq_true_eq, UInt32.le_iff_toNat_le] at h
  have hcode : c.toNat = c.val.toNat := rfl
  have hzero : '0'.toNat = 48 := rfl
  have hnine : '9'.val.toNat = 57 := rfl
  omega

theorem ofDigitChars_cons (c : Char) (cs : List Char) (n : Nat) :
    Nat.ofDigitChars 10 (c :: cs) n =
      Nat.ofDigitChars 10 cs (n * 10 + (c.toNat - '0'.toNat)) := by
  rw [Nat.ofDigitChars_cons, Nat.mul_comm 10 n]

/-- Further digits multiply by a power of ten, and add less than that. -/
theorem ofDigitChars_bounds {cs : List Char} (h : ∀ c ∈ cs, c.isDigit = true) (n : Nat) :
    n * 10 ^ cs.length ≤ Nat.ofDigitChars 10 cs n ∧
      Nat.ofDigitChars 10 cs n < (n + 1) * 10 ^ cs.length := by
  induction cs generalizing n with
  | nil => simp
  | cons c cs ih =>
      have hdigit := digit_le (h c (by simp))
      obtain ⟨hlow, hhigh⟩ := ih (fun d hd => h d (by simp [hd])) (n * 10 + (c.toNat - '0'.toNat))
      rw [ofDigitChars_cons, List.length_cons, pow_succ]
      constructor
      · calc n * (10 ^ cs.length * 10) = n * 10 * 10 ^ cs.length := by ring
          _ ≤ (n * 10 + (c.toNat - '0'.toNat)) * 10 ^ cs.length := by gcongr; omega
          _ ≤ _ := hlow
      · calc Nat.ofDigitChars 10 cs (n * 10 + (c.toNat - '0'.toNat))
            < (n * 10 + (c.toNat - '0'.toNat) + 1) * 10 ^ cs.length := hhigh
          _ ≤ ((n + 1) * 10) * 10 ^ cs.length := by gcongr; omega
          _ = (n + 1) * (10 ^ cs.length * 10) := by ring

/-- Digits split into a significand of 64 bits and `rest` further digits: as many digits are taken
as fit. -/
structure Splits (value significand rest : Nat) : Prop where
  fits : significand < 2 ^ 64
  low : significand * 10 ^ rest ≤ value
  high : value < (significand + 1) * 10 ^ rest
  full : 0 < rest → 2 ^ 64 ≤ value ∧ 2 ^ 64 ≤ 10 * significand + 9

theorem absorb_splits {cs : List Char} (h : ∀ c ∈ cs, c.isDigit = true) {n : Nat}
    (hn : n < 2 ^ 64) :
    (absorb n cs).2 ≤ cs.length ∧
      Splits (Nat.ofDigitChars 10 cs n) (absorb n cs).1 (cs.length - (absorb n cs).2) := by
  induction cs generalizing n with
  | nil => exact ⟨Nat.le_refl 0, hn, by simp [absorb], by simp [absorb], by simp⟩
  | cons c cs ih =>
      have hdigit := digit_le (h c (by simp))
      have hsize : UInt64.size = 2 ^ 64 := by decide
      rw [absorb]
      by_cases hfits : n * 10 + (c.toNat - '0'.toNat) < 2 ^ 64
      · -- the digit is taken
        have hnext : fitsUInt64 (n * 10 + (c.toNat - '0'.toNat)) = true := by
          simp only [fitsUInt64, hsize, hfits, decide_true]
        obtain ⟨hlength, hsplit⟩ := ih (fun d hd => h d (by simp [hd])) hfits
        simp only [hnext, if_true, List.length_cons, Nat.add_sub_add_right, ofDigitChars_cons]
        exact ⟨Nat.succ_le_succ hlength, hsplit⟩
      · -- the digit does not fit, and neither do the ones behind it
        have hnext : fitsUInt64 (n * 10 + (c.toNat - '0'.toNat)) = false := by
          simp only [fitsUInt64, hsize, hfits, decide_false]
        obtain ⟨hlow, hhigh⟩ := ofDigitChars_bounds h n
        simp only [hnext, Bool.false_eq_true, if_false, Nat.sub_zero]
        refine ⟨Nat.zero_le _, hn, hlow, hhigh, fun _ => ⟨?_, by omega⟩⟩
        rw [ofDigitChars_cons]
        have hrest := (ofDigitChars_bounds (fun d hd => h d (by simp [hd]) : ∀ d ∈ cs, _)
          (n * 10 + (c.toNat - '0'.toNat))).1
        have hpow : 1 ≤ 10 ^ cs.length := Nat.one_le_pow _ _ (by decide)
        calc 2 ^ 64 ≤ n * 10 + (c.toNat - '0'.toNat) := not_lt.mp hfits
          _ ≤ (n * 10 + (c.toNat - '0'.toNat)) * 10 ^ cs.length := Nat.le_mul_of_pos_right _ hpow
          _ ≤ _ := hrest

/-! ### Doubles -/

theorem toDouble?_whole {numeral : Numeral} (hfraction : numeral.fraction = [])
    (hexponent : numeral.exponent = none) :
    numeral.toDouble? =
      (scale (absorb 0 numeral.whole).1
        ((numeral.whole.length - (absorb 0 numeral.whole).2 : Nat) : Int)).map
        (.finite numeral.negative) := by
  simp [toDouble?, hfraction, hexponent, absorb]

theorem scale_natCast (significand rest : Nat) :
    scale significand (rest : Int) =
      (Magnitude.ofRatio? significand 1).bind (fun d =>
        if rest ≤ 308 then d.mul? (powerOfTen rest)
        else if d.isZero then some .zero
        else none) := by
  have hsign : ¬ (rest : Int) < 0 := by omega
  have hreach : (rest : Int) ≤ 308 ↔ rest ≤ 308 := by omega
  simp only [scale, hsign, if_false, hreach, Int.natAbs_natCast]

/-- What an error of one part in `2 ^ 53` leaves of a number. -/
theorem bounds_of_error {x y : ℚ} (h : |x - y| ≤ y / 2 ^ 53) :
    y * (1 - 1 / 2 ^ 53) ≤ x ∧ x ≤ y * (1 + 1 / 2 ^ 53) := by
  obtain ⟨hlow, hhigh⟩ := abs_le.mp h
  constructor <;> linarith

theorem ten_pow_308_le : (10 : ℚ) ^ 308 ≤ 6 / 5 * 2 ^ 1023 := by
  have hnat : 5 * 10 ^ 308 ≤ 6 * 2 ^ 1023 := by decide +kernel
  have hcast : (5 : ℚ) * 10 ^ 308 ≤ 6 * 2 ^ 1023 := by exact_mod_cast hnat
  generalize (2 : ℚ) ^ 1023 = top at hcast ⊢
  generalize (10 : ℚ) ^ 308 = power at hcast ⊢
  linarith

theorem ten_pow_309_le : 12 / 5 * (2 : ℚ) ^ 1025 ≤ 10 ^ 309 := by
  have hnat : 12 * 2 ^ 1025 ≤ 5 * 10 ^ 309 := by decide +kernel
  have hcast : (12 : ℚ) * 2 ^ 1025 ≤ 5 * 10 ^ 309 := by exact_mod_cast hnat
  generalize (2 : ℚ) ^ 1025 = top at hcast ⊢
  generalize (10 : ℚ) ^ 309 = power at hcast ⊢
  linarith

theorem powerOfTen_bounds {k : Nat} (hk : k ≤ 308) :
    (10 : ℚ) ^ k * (1 - 1 / 2 ^ 53) ≤ (powerOfTen k).value ∧
      (powerOfTen k).value ≤ 10 ^ k * (1 + 1 / 2 ^ 53) := by
  have hone : 1 ≤ Nat.pow 10 k := Nat.one_le_pow _ _ (by decide)
  have hcast : ((Nat.pow 10 k : Nat) : ℚ) = 10 ^ k := by simp
  have hreach : ((Nat.pow 10 k : Nat) : ℚ) ≤ 3 / 2 * 2 ^ 1023 := by
    calc ((Nat.pow 10 k : Nat) : ℚ) = 10 ^ k := hcast
      _ ≤ 10 ^ 308 := pow_le_pow_right₀ (by norm_num) hk
      _ ≤ 6 / 5 * 2 ^ 1023 := ten_pow_308_le
      _ ≤ 3 / 2 * 2 ^ 1023 := mul_le_mul_of_nonneg_right (by norm_num) (by positivity)
  obtain ⟨d, hd⟩ := Option.isSome_iff_exists.mp (Magnitude.ofNat?_isSome hone hreach)
  have herror := Magnitude.ofNat?_error hone hd
  rw [hcast] at herror
  rw [powerOfTen, hd, Option.getD_some]
  exact bounds_of_error herror

/-- A significand is scaled by a product of two doubles, both off by at most one part in `2 ^ 53`,
or the power of ten is out of reach. -/
theorem scale_cases {significand : Nat} (hlow : 4 ≤ significand) (hhigh : significand < 2 ^ 64)
    (rest : Nat) :
    (308 < rest ∧ scale significand rest = none) ∨
    (rest ≤ 308 ∧ ∃ a b : Magnitude, scale significand rest = a.mul? b ∧ 1 ≤ a.value * b.value ∧
      (significand * 10 ^ rest : ℚ) * (1 - 1 / 2 ^ 53) ^ 2 ≤ a.value * b.value ∧
      a.value * b.value ≤ (significand * 10 ^ rest : ℚ) * (1 + 1 / 2 ^ 53) ^ 2) := by
  have hone : 1 ≤ significand := by omega
  have hcast : (1 : ℚ) ≤ significand := by exact_mod_cast hone
  have hreach : (significand : ℚ) ≤ 3 / 2 * 2 ^ 1023 := by
    have hsixtyfour : (significand : ℚ) ≤ 2 ^ 64 := by exact_mod_cast hhigh.le
    calc (significand : ℚ) ≤ 2 ^ 64 := hsixtyfour
      _ ≤ 2 ^ 1023 := pow_le_pow_right₀ one_le_two (by norm_num)
      _ ≤ 3 / 2 * 2 ^ 1023 := le_mul_of_one_le_left (by positivity) (by norm_num)
  obtain ⟨a, ha⟩ := Option.isSome_iff_exists.mp (Magnitude.ofNat?_isSome hone hreach)
  obtain ⟨halow, hahigh⟩ := bounds_of_error (Magnitude.ofNat?_error hone ha)
  have hfactor : (0 : ℚ) < 1 - 1 / 2 ^ 53 := by norm_num
  have hapos : 0 < a.value := lt_of_lt_of_le (by positivity) halow
  rw [scale_natCast, ha, Option.bind_some]
  by_cases hrest : rest ≤ 308
  · obtain ⟨hblow, hbhigh⟩ := powerOfTen_bounds hrest
    have hbpos : 0 ≤ (powerOfTen rest).value := le_trans (by positivity) hblow
    have hproduct : (significand * 10 ^ rest : ℚ) * (1 - 1 / 2 ^ 53) ^ 2 ≤
        a.value * (powerOfTen rest).value := by
      calc (significand * 10 ^ rest : ℚ) * (1 - 1 / 2 ^ 53) ^ 2
          = significand * (1 - 1 / 2 ^ 53) * (10 ^ rest * (1 - 1 / 2 ^ 53)) := by ring
        _ ≤ a.value * (powerOfTen rest).value := by gcongr
    refine .inr ⟨hrest, a, powerOfTen rest, if_pos hrest, ?_, hproduct, ?_⟩
    · have hsignificand : (4 : ℚ) ≤ significand := by exact_mod_cast hlow
      have hpower : (1 : ℚ) ≤ 10 ^ rest := one_le_pow₀ (by norm_num)
      calc (1 : ℚ) ≤ 4 * 1 * (1 - 1 / 2 ^ 53) ^ 2 := by norm_num
        _ ≤ significand * 10 ^ rest * (1 - 1 / 2 ^ 53) ^ 2 := by gcongr
        _ ≤ a.value * (powerOfTen rest).value := hproduct
    · calc a.value * (powerOfTen rest).value
          ≤ significand * (1 + 1 / 2 ^ 53) * (10 ^ rest * (1 + 1 / 2 ^ 53)) := by gcongr
        _ = (significand * 10 ^ rest : ℚ) * (1 + 1 / 2 ^ 53) ^ 2 := by ring
  · have hnonzero : a.isZero = false := by
      rw [Magnitude.isZero, beq_eq_false_iff_ne]
      intro hmantissa
      simp [Magnitude.value, hmantissa] at hapos
    refine .inl ⟨by omega, ?_⟩
    rw [if_neg hrest, hnonzero]
    rfl

/-- A scaled significand is hardly less than the exact product. -/
theorem scale_lower {significand rest : Nat} (hlow : 4 ≤ significand)
    (hhigh : significand < 2 ^ 64) {d : Magnitude} (hd : scale significand rest = some d) :
    (significand * 10 ^ rest : ℚ) * (1 - 1 / 2 ^ 53) ^ 3 ≤ d.value := by
  rcases scale_cases hlow hhigh rest with ⟨-, hnone⟩ | ⟨-, a, b, hscale, hone, hproduct, -⟩
  · rw [hnone] at hd
    cases hd
  · rw [hscale] at hd
    calc (significand * 10 ^ rest : ℚ) * (1 - 1 / 2 ^ 53) ^ 3
        = significand * 10 ^ rest * (1 - 1 / 2 ^ 53) ^ 2 * (1 - 1 / 2 ^ 53) := by ring
      _ ≤ a.value * b.value * (1 - 1 / 2 ^ 53) :=
          mul_le_mul_of_nonneg_right hproduct (by norm_num)
      _ ≤ d.value := (bounds_of_error (Magnitude.mul?_error hone hd)).1

theorem scale_isSome {significand rest : Nat} (hlow : 4 ≤ significand)
    (hhigh : significand < 2 ^ 64) (h : (significand * 10 ^ rest : ℚ) ≤ 10 ^ 308) :
    (scale significand rest).isSome = true := by
  rcases scale_cases hlow hhigh rest with ⟨hrest, -⟩ | ⟨-, a, b, hscale, hone, -, htop⟩
  · have hsignificand : (1 : ℚ) < significand := by
      exact_mod_cast Nat.lt_of_lt_of_le (by decide) hlow
    have hless : (10 : ℚ) ^ 308 < significand * 10 ^ rest :=
      calc (10 : ℚ) ^ 308 ≤ 10 ^ rest := pow_le_pow_right₀ (by norm_num) hrest.le
        _ < significand * 10 ^ rest := lt_mul_of_one_lt_left (by positivity) hsignificand
    exact absurd h (not_le.mpr hless)
  · rw [hscale]
    refine Magnitude.mul?_isSome hone ?_
    calc a.value * b.value ≤ significand * 10 ^ rest * (1 + 1 / 2 ^ 53) ^ 2 := htop
      _ ≤ 10 ^ 308 * (1 + 1 / 2 ^ 53) ^ 2 := mul_le_mul_of_nonneg_right h (by norm_num)
      _ ≤ 6 / 5 * 2 ^ 1023 * (1 + 1 / 2 ^ 53) ^ 2 :=
          mul_le_mul_of_nonneg_right ten_pow_308_le (by norm_num)
      _ = 6 / 5 * (1 + 1 / 2 ^ 53) ^ 2 * 2 ^ 1023 := mul_right_comm _ _ _
      _ ≤ 3 / 2 * 2 ^ 1023 := mul_le_mul_of_nonneg_right (by norm_num) (by positivity)

theorem scale_eq_none {significand rest : Nat} (hlow : 4 ≤ significand)
    (hhigh : significand < 2 ^ 64) (h : 6 / 5 * (2 : ℚ) ^ 1025 ≤ significand * 10 ^ rest) :
    scale significand rest = none := by
  rcases scale_cases hlow hhigh rest with ⟨-, hnone⟩ | ⟨-, a, b, hscale, -, hproduct, -⟩
  · exact hnone
  · rw [hscale]
    apply Magnitude.mul?_eq_none
    calc (2 : ℚ) ^ 1025 ≤ 6 / 5 * (1 - 1 / 2 ^ 53) ^ 2 * 2 ^ 1025 :=
          le_mul_of_one_le_left (pow_nonneg zero_le_two _) (by norm_num)
      _ = 6 / 5 * 2 ^ 1025 * (1 - 1 / 2 ^ 53) ^ 2 := mul_right_comm _ _ _
      _ ≤ significand * 10 ^ rest * (1 - 1 / 2 ^ 53) ^ 2 :=
          mul_le_mul_of_nonneg_right h (by norm_num)
      _ ≤ a.value * b.value := hproduct

/-! ### Integer literals -/

/-- The numeral is an integer literal, that is, digits with or without a minus sign, and writes
`k`. -/
structure IsLiteral (numeral : Numeral) (k : Int) : Prop where
  whole : IsWhole numeral.whole
  fraction : numeral.fraction = []
  exponent : numeral.exponent = none
  value : k = if numeral.negative then -(Nat.ofDigitChars 10 numeral.whole 0 : Int)
    else Nat.ofDigitChars 10 numeral.whole 0

variable {numeral : Numeral} {k : Int}

theorem IsLiteral.natAbs (h : numeral.IsLiteral k) :
    k.natAbs = Nat.ofDigitChars 10 numeral.whole 0 := by
  rw [h.value]
  split
  · rw [Int.natAbs_neg, Int.natAbs_natCast]
  · rw [Int.natAbs_natCast]

theorem isLiteral_ofInt (k : Int) : (ofInt k).IsLiteral k := by
  have hdigits : Nat.ofDigitChars 10 (Nat.toDigits 10 k.natAbs) 0 = k.natAbs :=
    Nat.ofDigitChars_ten_toDigits
  refine ⟨isWhole_toDigits _, rfl, rfl, ?_⟩
  simp only [ofInt, hdigits, decide_eq_true_eq]
  split
  · omega
  · omega

/-- A literal is split into its first digits, as many as fit in 64 bits, and the number of the
others. -/
theorem IsLiteral.splits (h : numeral.IsLiteral k) : ∃ significand rest,
    Splits k.natAbs significand rest ∧
      numeral.toDouble? = (scale significand (rest : Int)).map (.finite numeral.negative) := by
  obtain ⟨-, hsplits⟩ := absorb_splits h.whole.digits (Nat.two_pow_pos 64)
  refine ⟨_, _, ?_, toDouble?_whole h.fraction h.exponent⟩
  rwa [h.natAbs]

/-- Digits of 64 bits are taken as a whole. -/
theorem Splits.of_lt {value significand rest : Nat} (h : Splits value significand rest)
    (hvalue : value < 2 ^ 64) : significand = value ∧ rest = 0 := by
  have hrest : rest = 0 := by
    by_contra hne
    have := (h.full (by omega)).1
    omega
  subst hrest
  have hlow := h.low
  have hhigh := h.high
  omega

/-- A literal stands for its integer if that has 64 bits, with a sign or without; a zero with a
minus sign does not. -/
theorem toInteger?_literal (h : numeral.IsLiteral k) :
    numeral.toInteger? =
      if -2 ^ 63 ≤ k ∧ k < 2 ^ 64 ∧ (k = 0 → numeral.negative = false) then some k else none := by
  have hfraction : numeral.fraction.isEmpty = true := by rw [h.fraction]; rfl
  have hexponent : numeral.exponent.isNone = true := by rw [h.exponent]; rfl
  have hvalue := h.value
  have hsize : UInt64.size = 2 ^ 64 := by decide
  have hmin : Int64.minValue.toInt = -2 ^ 63 := by decide
  have hmax : Int64.maxValue.toInt = 2 ^ 63 - 1 := by decide
  rw [toInteger?, hfraction, hexponent]
  simp only [Bool.and_self, if_true]
  generalize Nat.ofDigitChars 10 numeral.whole 0 = n at hvalue ⊢
  cases hnegative : numeral.negative with
  | true =>
      simp only [hnegative, if_true] at hvalue ⊢
      simp only [fitsInt64, hmin, hmax, Bool.and_eq_true, decide_eq_true_eq, Bool.true_eq_false,
        imp_false]
      split
      · rw [if_pos (by omega), hvalue]
      · rw [if_neg (by omega)]
  | false =>
      simp only [hnegative, Bool.false_eq_true, if_false] at hvalue ⊢
      simp only [fitsUInt64, hsize, decide_eq_true_eq, implies_true, and_true]
      split
      · rw [if_pos (by omega), hvalue]
      · rw [if_neg (by omega)]

theorem value?_of_toInteger? {n : Int} (h : numeral.toInteger? = some n) :
    numeral.value? = some (.integer n) := by
  rw [value?, h]

theorem value?_of_double (h : numeral.toInteger? = none) :
    numeral.value? = numeral.toDouble?.map .double := by
  rw [value?, h]

/-- **A literal of 64 bits has the value that it writes**, be it an integer or a negative zero. -/
theorem value?_literal (h : numeral.IsLiteral k) (hlow : -2 ^ 63 ≤ k) (hhigh : k < 2 ^ 64) :
    numeral.value? = some (.integer k) ∨
      (k = 0 ∧ numeral.value? = some (.double (.finite true .zero))) := by
  by_cases hzero : k = 0 ∧ numeral.negative = true
  · right
    obtain ⟨rfl, hnegative⟩ := hzero
    refine ⟨rfl, ?_⟩
    obtain ⟨significand, rest, hsplits, hdouble⟩ := h.splits
    obtain ⟨rfl, rfl⟩ := hsplits.of_lt (by decide)
    have hscale : scale (Int.natAbs 0) ((0 : Nat) : Int) = some .zero := by decide +kernel
    rw [value?_of_double (by rw [toInteger?_literal h, if_neg (by simp [hnegative])]), hdouble,
      hscale, hnegative]
    rfl
  · left
    refine value?_of_toInteger? ?_
    rw [toInteger?_literal h, if_pos]
    refine ⟨hlow, hhigh, fun heq => ?_⟩
    simpa [heq] using hzero

/-! ### Below the least integer of 64 bits -/

theorem exponentFor_eq_eleven {n : Nat} (hlow : 2 ^ 63 ≤ n) (hhigh : n < 2 ^ 64) :
    Magnitude.exponentFor n 1 = 11 := by
  obtain ⟨hle, hlt⟩ := Magnitude.exponentFor_spec Nat.one_pos (by omega : 1 ≤ n)
  rw [Nat.cast_one, div_one] at hle hlt
  have hnlow : (2 : ℚ) ^ (63 : Int) ≤ n := by exact_mod_cast hlow
  have hnhigh : (n : ℚ) < 2 ^ (64 : Int) := by exact_mod_cast hhigh
  have htwo : (1 : ℚ) < 2 := one_lt_two
  have hless := (zpow_lt_zpow_iff_right₀ htwo).mp (lt_of_le_of_lt hle hnhigh)
  have hmore := (zpow_lt_zpow_iff_right₀ htwo).mp (lt_of_le_of_lt hnlow hlt)
  omega

theorem mantissaFor_eq {n : Nat} (hlow : 2 ^ 63 ≤ n) (hhigh : n < 2 ^ 64) :
    Magnitude.mantissaFor n 1 = divHalfEven n 2048 := by
  rw [Magnitude.mantissaFor, exponentFor_eq_eleven hlow hhigh]
  rfl

theorem powerOfTen_zero : powerOfTen 0 = ⟨2 ^ 52, -52⟩ := by decide +kernel

/-- The least integer of 64 bits is the nearest double of the 1024 integers below it. -/
theorem scale_near {n : Nat} (hlow : 2 ^ 63 ≤ n) (hhigh : n ≤ 2 ^ 63 + 1024) :
    scale n ((0 : Nat) : Int) = some ⟨2 ^ 52, 11⟩ := by
  have hmantissa : Magnitude.mantissaFor n 1 = 2 ^ 52 := by
    rw [mantissaFor_eq hlow (by omega), divHalfEven]
    have hwhole : n / 2048 = 2 ^ 52 := by omega
    have hrest : n % 2048 = n - 2 ^ 63 := by omega
    have heven : ¬ (2 ^ 52 % 2 = 1) := by decide
    simp only [hwhole, hrest, heven, and_false, if_false]
    rw [if_neg (by omega)]
  have hround : Magnitude.ofRatio? n 1 = some ⟨2 ^ 52, 11⟩ := by
    rcases @Magnitude.ofRatio?_cases n 1 (by omega) with ⟨hfull, -⟩ | ⟨-, heq⟩
    · rw [hmantissa] at hfull
      exact absurd hfull (by decide)
    · rw [heq, exponentFor_eq_eleven hlow (by omega), hmantissa]
      rfl
  have hproduct : Magnitude.mul? ⟨2 ^ 52, 11⟩ (powerOfTen 0) = some ⟨2 ^ 52, 11⟩ := by
    decide +kernel
  rw [scale_natCast, hround, Option.bind_some, if_pos (by decide), hproduct]

theorem mantissa_beyond {n : Nat} (hlow : 2 ^ 63 + 1024 < n) :
    2 ^ 52 + 1 ≤ divHalfEven n 2048 := by
  unfold divHalfEven
  simp only
  split
  · omega
  · split
    · omega
    · omega

/-- The integers of 64 bits beyond these have doubles that are beyond, too. -/
theorem scale_beyond {n : Nat} (hlow : 2 ^ 63 + 1024 < n) (hhigh : n < 2 ^ 64) :
    ∃ d : Magnitude, (2 : ℚ) ^ 63 < d.value ∧ scale n ((0 : Nat) : Int) = some d := by
  have hcast : (n : ℚ) < 2 ^ 64 := by exact_mod_cast hhigh
  have hreach : (n : ℚ) * 10 ^ 0 ≤ 10 ^ 308 := by
    calc (n : ℚ) * 10 ^ 0 ≤ 10 ^ 20 := by
          norm_num at hcast ⊢
          linarith
      _ ≤ 10 ^ 308 := pow_le_pow_right₀ (by norm_num) (by norm_num)
  obtain ⟨d, hd⟩ := Option.isSome_iff_exists.mp (scale_isSome (by omega) hhigh hreach)
  refine ⟨d, ?_, hd⟩
  -- the first double is exact enough to lie at least one step beyond
  rw [scale_natCast] at hd
  obtain ⟨a, ha, hproduct⟩ := Option.bind_eq_some_iff.mp hd
  rw [if_pos (by decide)] at hproduct
  have hvalue : (2 : ℚ) ^ 63 + 2048 ≤ a.value := by
    have hmantissa : (2 : ℚ) ^ 52 + 1 ≤ divHalfEven n 2048 := by
      exact_mod_cast mantissa_beyond hlow
    rw [Magnitude.value_ofRatio? (by omega) ha, mantissaFor_eq (by omega) hhigh,
      exponentFor_eq_eleven (by omega) hhigh]
    calc (2 : ℚ) ^ 63 + 2048 = (2 ^ 52 + 1) * 2 ^ (11 : Int) := by norm_num
      _ ≤ (divHalfEven n 2048 : ℚ) * 2 ^ (11 : Int) := by gcongr
  have hone : (powerOfTen 0).value = 1 := by
    rw [powerOfTen_zero, Magnitude.value]
    norm_num
  have herror := Magnitude.mul?_error (by rw [hone, mul_one]; linarith) hproduct
  rw [hone, mul_one] at herror
  have hbound := (bounds_of_error herror).1
  calc (2 : ℚ) ^ 63 < (2 ^ 63 + 2048) * (1 - 1 / 2 ^ 53) := by norm_num
    _ ≤ a.value * (1 - 1 / 2 ^ 53) := mul_le_mul_of_nonneg_right hvalue (by norm_num)
    _ ≤ d.value := hbound

/-- So have the integers of more than 64 bits, if they have a double at all. -/
theorem scale_far {value significand rest : Nat} (h : Splits value significand rest)
    (hvalue : 2 ^ 64 ≤ value) {d : Magnitude} (hd : scale significand (rest : Int) = some d) :
    (2 : ℚ) ^ 63 < d.value := by
  have hrest : 0 < rest := by
    by_contra hzero
    obtain rfl : rest = 0 := by omega
    have hhigh := h.high
    have hfits := h.fits
    omega
  have hfull := (h.full hrest).2
  have hten : (2 : ℚ) ^ 64 ≤ 10 * significand + 9 := by exact_mod_cast hfull
  have hpower : (10 : ℚ) ≤ 10 ^ rest := by
    calc (10 : ℚ) = 10 ^ 1 := (pow_one 10).symm
      _ ≤ 10 ^ rest := pow_le_pow_right₀ (by norm_num) hrest
  calc (2 : ℚ) ^ 63 < (2 ^ 64 - 9) * (1 - 1 / 2 ^ 53) ^ 3 := by norm_num
    _ ≤ (significand * 10 : ℚ) * (1 - 1 / 2 ^ 53) ^ 3 :=
        mul_le_mul_of_nonneg_right (by linarith) (by norm_num)
    _ ≤ (significand * 10 ^ rest : ℚ) * (1 - 1 / 2 ^ 53) ^ 3 := by gcongr
    _ ≤ d.value := scale_lower (by omega) h.fits hd

theorem IsLiteral.negative_of_lt (h : numeral.IsLiteral k) (hk : k < 0) :
    numeral.negative = true := by
  by_contra hnot
  have hvalue := h.value
  rw [if_neg hnot] at hvalue
  omega

/-- **The 1024 integers below the least one of 64 bits are rounded to it.** -/
theorem value?_near (h : numeral.IsLiteral k) (hlow : -2 ^ 63 - 1024 ≤ k) (hhigh : k < -2 ^ 63) :
    numeral.value? = some (.double (.finite true ⟨2 ^ 52, 11⟩)) := by
  obtain ⟨significand, rest, hsplits, hdouble⟩ := h.splits
  obtain ⟨rfl, rfl⟩ := hsplits.of_lt (by omega)
  rw [value?_of_double (by rw [toInteger?_literal h, if_neg (by omega)]), hdouble,
    scale_near (by omega) (by omega), h.negative_of_lt (by omega)]
  rfl

/-- **A literal that is further off is refused or has a value beyond the integers of 64 bits.** -/
theorem value?_far (h : numeral.IsLiteral k) (hk : k < -2 ^ 63 - 1024 ∨ 2 ^ 64 ≤ k) :
    numeral.value? = none ∨ ∃ d : Magnitude, (2 : ℚ) ^ 63 < d.value ∧
      numeral.value? = some (.double (.finite numeral.negative d)) := by
  obtain ⟨significand, rest, hsplits, hdouble⟩ := h.splits
  rw [value?_of_double (by rw [toInteger?_literal h, if_neg (by omega)]), hdouble]
  by_cases hsize : k.natAbs < 2 ^ 64
  · obtain ⟨rfl, rfl⟩ := hsplits.of_lt hsize
    obtain ⟨d, hbeyond, hd⟩ := scale_beyond (n := k.natAbs) (by omega) hsize
    rw [hd]
    exact .inr ⟨d, hbeyond, rfl⟩
  · cases hd : scale significand (rest : Int) with
    | none => exact .inl rfl
    | some d => exact .inr ⟨d, scale_far hsplits (not_lt.mp hsize) hd, rfl⟩

theorem Splits.four_le {value significand rest : Nat} (h : Splits value significand rest)
    (hvalue : 4 ≤ value) : 4 ≤ significand := by
  rcases Nat.eq_zero_or_pos rest with rfl | hrest
  · have hhigh := h.high
    omega
  · have hfull := (h.full hrest).2
    omega

/-- A literal of an integer below `10 ^ 308` has a value. -/
theorem value?_isSome (h : numeral.IsLiteral k) (hk : k.natAbs < 10 ^ 308) :
    numeral.value?.isSome = true := by
  by_cases hsmall : -2 ^ 63 ≤ k ∧ k < 2 ^ 64
  · rcases value?_literal h hsmall.1 hsmall.2 with hvalue | ⟨-, hvalue⟩
    · rw [hvalue]
      rfl
    · rw [hvalue]
      rfl
  · obtain ⟨significand, rest, hsplits, hdouble⟩ := h.splits
    have hreach : (significand * 10 ^ rest : ℚ) ≤ 10 ^ 308 := by
      exact_mod_cast hsplits.low.trans hk.le
    have hsome := scale_isSome (hsplits.four_le (by omega)) hsplits.fits hreach
    rw [value?_of_double (by rw [toInteger?_literal h, if_neg (by omega)]), hdouble]
    simpa using hsome

/-- A literal of an integer of at least `10 ^ 309` has none. -/
theorem value?_eq_none (h : numeral.IsLiteral k) (hk : 10 ^ 309 ≤ k.natAbs) :
    numeral.value? = none := by
  have hbig : 2 ^ 64 ≤ k.natAbs := le_trans (by decide +kernel) hk
  obtain ⟨significand, rest, hsplits, hdouble⟩ := h.splits
  have hfour : 4 ≤ significand := hsplits.four_le (by omega)
  have hreach : 6 / 5 * (2 : ℚ) ^ 1025 ≤ significand * 10 ^ rest := by
    have hdoubled : k.natAbs ≤ 2 * (significand * 10 ^ rest) := by
      calc k.natAbs ≤ (significand + 1) * 10 ^ rest := hsplits.high.le
        _ ≤ (2 * significand) * 10 ^ rest := Nat.mul_le_mul_right _ (by omega)
        _ = 2 * (significand * 10 ^ rest) := Nat.mul_assoc _ _ _
    have hcast : (10 : ℚ) ^ 309 ≤ 2 * (significand * 10 ^ rest) := by
      exact_mod_cast hk.trans hdoubled
    have hpower := ten_pow_309_le
    generalize (10 : ℚ) ^ 309 = power at hcast hpower
    generalize (2 : ℚ) ^ 1025 = top at hpower ⊢
    linarith
  rw [value?_of_double (by rw [toInteger?_literal h, if_neg (by omega)]), hdouble,
    scale_eq_none hfour hsplits.fits hreach]
  rfl

end Numeral

end LanguageBlueprint
