/-
  LanguageBlueprint/Proofs/Time/Reading.lean
  ==========================================
  **A point in time that was written is read again.**  Every part of the text is a
  numeral of a fixed width or one that ends at a mark, so each scanner takes the
  part that was written for it and leaves the rest.  Nothing is in the way of the
  scanners: there are no blanks, and the offset is none.

    * numerals with zeros in front   — `isNumeral_padded`, `scanNumber_isNumeral`;
    * the parts of a text            — `scanYear_yearChars`, `scanPair_padded`, `scanNano_nanoChars`;
    * points in time                 — `ofText_text`, `reads_instant`.
-/
import LanguageBlueprint.Proofs.Exchange.RoundTrip
import LanguageBlueprint.Proofs.Text.Digits
import LanguageBlueprint.Time.Instant

namespace LanguageBlueprint

open Text Number

/-- A date within reach and a time of day; the last second of a minute may be a leap second. -/
structure Instant.IsValid (instant : Instant) : Prop where
  date : instant.date.isValid = true
  hour : instant.hour < 24
  minute : instant.minute < 60
  second : instant.second ≤ 60
  nano : instant.nano < 1000000000

namespace Instant

/-! ### Numerals -/

/-- The digits are those of a number, perhaps with zeros in front. -/
structure IsNumeral (digits : List Char) (n : Nat) : Prop where
  nonempty : digits ≠ []
  allDigits : ∀ c ∈ digits, c.isDigit = true
  value : Nat.ofDigitChars 10 digits 0 = n

theorem isNumeral_padded (width n : Nat) : IsNumeral (padded width n) n := by
  unfold padded
  refine ⟨?_, ?_, ?_⟩
  · intro hnil
    exact Nat.toDigits_ne_nil (List.append_eq_nil_iff.mp hnil).2
  · intro c hc
    rcases List.mem_append.mp hc with hzero | hdigit
    · rw [(List.mem_replicate.mp hzero).2]
      decide
    · exact all_isDigit_toDigits n c hdigit
  · rw [Nat.ofDigitChars_append, Nat.ofDigitChars_replicate_zero, Nat.mul_zero,
      Nat.ofDigitChars_ten_toDigits]

theorem length_padded {width n : Nat} (hwidth : 0 < width) (h : n < Nat.pow 10 width) :
    (padded width n).length = width := by
  have hdigits : (Nat.toDigits 10 n).length ≤ width :=
    (Nat.length_toDigits_le_iff (by decide) hwidth).mpr h
  unfold padded
  simp only [List.length_append, List.length_replicate]
  omega

/-- A numeral is scanned up to its end, if it fits. -/
theorem scanNumber_isNumeral {digits rest : List Char} {n : Nat} (h : IsNumeral digits n)
    {width : Option Nat} (hwidth : ∀ w ∈ width, digits.length ≤ w) (hrest : EndsDigits rest) :
    scanNumber width (digits ++ rest) = .ok (n, rest) := by
  have hne : (digits ++ rest).isEmpty = false := by
    simp [h.nonempty]
  have hempty : digits.isEmpty = false := by
    simp [h.nonempty]
  have hall : digits.all Char.isDigit = true := List.all_eq_true.mpr h.allDigits
  have hnatural : natural? digits = some n := by
    simp [natural?, hempty, hall, h.value]
  have hrun := takeWhile_digits h.allDigits hrest
  cases width with
  | none =>
      simp only [scanNumber, hne, hrun, hnatural, Bool.false_eq_true, if_false, List.drop_left]
  | some w =>
      have htaken : digits.take w = digits := List.take_of_length_le (hwidth w rfl)
      simp only [scanNumber, hne, hrun, htaken, hnatural, Bool.false_eq_true, if_false,
        List.drop_left]

/-! ### The parts of a text -/

theorem trimStart_cons {c : Char} (h : isBlankChar c = false) (cs : List Char) :
    trimStart (c :: cs) = c :: cs := by
  simp [trimStart, h]

theorem trimStart_isNumeral {digits : List Char} {n : Nat} (h : IsNumeral digits n)
    (rest : List Char) : trimStart (digits ++ rest) = digits ++ rest := by
  obtain ⟨d, more, rfl⟩ := List.exists_cons_of_ne_nil h.nonempty
  exact trimStart_cons (isBlankChar_of_isDigit (h.allDigits d List.mem_cons_self)) (more ++ rest)

theorem scanMark_self {mark : Char} (h : isBlankChar mark = false) (rest : List Char) :
    scanMark mark (mark :: rest) = .ok rest := by
  simp only [scanMark, trimStart_cons h, if_true]

theorem scanPair_padded {low high n : Nat} (hlow : low ≤ n) (hhigh : n ≤ high) (hn : n < 100)
    {rest : List Char} (hrest : EndsDigits rest) :
    scanPair low high (padded 2 n ++ rest) = .ok (n, rest) := by
  have hnumeral := isNumeral_padded 2 n
  have hwidth : ∀ w ∈ some 2, (padded 2 n).length ≤ w := by
    intro w hw
    cases hw
    exact Nat.le_of_eq (length_padded (by decide) hn)
  have hscan := scanNumber_isNumeral hnumeral hwidth hrest
  simp only [scanPair, trimStart_isNumeral hnumeral, hscan, hlow, hhigh, decide_true, Bool.and_self,
    if_true, bind, Except.bind]
  rfl

theorem scanYear_unsigned {digits : List Char} {n : Nat} (h : IsNumeral digits n)
    (hwidth : digits.length ≤ 4) (hn : (n : Int) ≤ Int32.maxValue.toInt) {rest : List Char}
    (hrest : EndsDigits rest) : scanYear (digits ++ rest) = .ok (n, rest) := by
  obtain ⟨d, more, rfl⟩ := List.exists_cons_of_ne_nil h.nonempty
  have hd : d.isDigit = true := h.allDigits d List.mem_cons_self
  have hminus : d ≠ '-' := isDigit_ne hd (by decide)
  have hplus : d ≠ '+' := isDigit_ne hd (by decide)
  have hfits : ∀ w ∈ some 4, (d :: more).length ≤ w := by
    intro w hw
    cases hw
    exact hwidth
  have hscan := scanNumber_isNumeral h hfits hrest
  have hlow : Int32.minValue.toInt ≤ (n : Int) := Int.le_trans (by decide) (Int.natCast_nonneg n)
  rw [scanYear, trimStart_isNumeral h]
  split
  · rename_i heq
    exact absurd (List.cons.inj heq).1 hminus
  · rename_i heq
    exact absurd (List.cons.inj heq).1 hplus
  · rw [hscan]
    simp only [bind, Except.bind, pure, Except.pure, hlow, hn, decide_true, Bool.and_self, if_true]

theorem scanYear_signed {digits : List Char} {n : Nat} (h : IsNumeral digits n)
    (hn : (n : Int) ≤ Int32.maxValue.toInt) {rest : List Char} (hrest : EndsDigits rest) :
    scanYear ('-' :: (digits ++ rest)) = .ok (-(n : Int), rest) ∧
    scanYear ('+' :: (digits ++ rest)) = .ok ((n : Int), rest) := by
  have hany : ∀ w ∈ (none : Option Nat), digits.length ≤ w := by
    intro w hw
    cases hw
  have hscan := scanNumber_isNumeral h hany hrest
  have hmax : Int32.maxValue.toInt = 2147483647 := by decide
  have hmin : Int32.minValue.toInt = -2147483648 := by decide
  have hlow : Int32.minValue.toInt ≤ (n : Int) := by omega
  have hnegative : Int32.minValue.toInt ≤ -(n : Int) := by omega
  have hbelow : -(n : Int) ≤ Int32.maxValue.toInt := by omega
  constructor
  · rw [scanYear, trimStart_cons (by decide)]
    simp only [hscan, bind, Except.bind, pure, Except.pure, hnegative, hbelow, decide_true,
      Bool.and_self, if_true]
  · rw [scanYear, trimStart_cons (by decide)]
    simp only [hscan, bind, Except.bind, pure, Except.pure, hlow, hn, decide_true, Bool.and_self,
      if_true]

theorem scanYear_yearChars {year : Int} (h : Date.inReach year = true) {rest : List Char}
    (hrest : EndsDigits rest) : scanYear (yearChars year ++ rest) = .ok (year, rest) := by
  simp only [Date.inReach, Bool.and_eq_true, decide_eq_true_eq] at h
  have hmax : Int32.maxValue.toInt = 2147483647 := by decide
  unfold yearChars
  by_cases hshort : 0 ≤ year ∧ year ≤ 9999
  · have hyear : (year.toNat : Int) = year := Int.toNat_of_nonneg hshort.1
    have hfour : (padded 4 year.toNat).length ≤ 4 := by
      apply Nat.le_of_eq
      apply length_padded (by decide)
      have hpow : Nat.pow 10 4 = 10000 := rfl
      omega
    have hscan := scanYear_unsigned (isNumeral_padded 4 year.toNat) hfour (by omega) hrest
    simp only [hshort.1, hshort.2, decide_true, Bool.and_self, if_true, hscan, hyear]
  · have hlong : (decide (0 ≤ year) && decide (year ≤ 9999)) = false := by
      rw [← Bool.not_eq_true, Bool.and_eq_true, decide_eq_true_eq, decide_eq_true_eq]
      exact hshort
    obtain ⟨hnegative, hpositive⟩ :=
      scanYear_signed (isNumeral_padded 4 year.natAbs) (by omega) hrest
    by_cases hsign : year < 0
    · have hyear : -(year.natAbs : Int) = year := by omega
      rw [hyear] at hnegative
      simp only [hlong, hsign, Bool.false_eq_true, if_false, if_true, List.cons_append, hnegative]
    · have hyear : (year.natAbs : Int) = year := by omega
      rw [hyear] at hpositive
      simp only [hlong, hsign, Bool.false_eq_true, if_false, List.cons_append, hpositive]

/-- A fraction of so many digits is scanned as so many parts of a second. -/
theorem scanNano_padded {width n : Nat} (hpositive : 0 < width) (hwidth : width ≤ 9)
    (hn : n < Nat.pow 10 width) {rest : List Char} (hrest : EndsDigits rest) :
    scanNano ('.' :: (padded width n ++ rest)) = .ok (n * Nat.pow 10 (9 - width), rest) := by
  have hnumeral := isNumeral_padded width n
  have hlength := length_padded hpositive hn
  have hfits : ∀ w ∈ some 9, (padded width n).length ≤ w := by
    intro w hw
    cases hw
    omega
  have hscan := scanNumber_isNumeral hnumeral hfits hrest
  have hdigits : (padded width n ++ rest).length - rest.length = width := by
    rw [List.length_append]
    omega
  have hend : rest.dropWhile Char.isDigit = rest := by
    have hnone : ∀ c ∈ ([] : List Char), c.isDigit = true := by
      intro c hc
      cases hc
    exact dropWhile_digits hnone hrest
  simp only [scanNano, hscan, bind, Except.bind, pure, Except.pure, hdigits, hend]

theorem scanNano_nanoChars {nano : Nat} (h : nano < 1000000000) {rest : List Char}
    (hrest : EndsDigits rest) (hpoint : '.' ∉ rest.head?) :
    scanNano (nanoChars nano ++ rest) = .ok (nano, rest) := by
  have hthree : Nat.pow 10 3 = 1000 := rfl
  have hsix : Nat.pow 10 6 = 1000000 := rfl
  have hnine : Nat.pow 10 9 = 1000000000 := rfl
  unfold nanoChars
  split
  · rename_i hzero
    rw [List.nil_append, hzero, scanNano]
    intro cs hcs
    exact hpoint (by rw [hcs]; rfl)
  · split
    · have hscan := @scanNano_padded 3 (nano / 1000000) (by decide) (by decide) (by omega) rest hrest
      rw [List.cons_append, hscan]
      have hwhole : nano / 1000000 * Nat.pow 10 (9 - 3) = nano := by
        have hpow : Nat.pow 10 (9 - 3) = 1000000 := rfl
        rw [hpow]
        omega
      rw [hwhole]
    · split
      · have hscan := @scanNano_padded 6 (nano / 1000) (by decide) (by decide) (by omega) rest hrest
        rw [List.cons_append, hscan]
        have hwhole : nano / 1000 * Nat.pow 10 (9 - 6) = nano := by
          have hpow : Nat.pow 10 (9 - 6) = 1000 := rfl
          rw [hpow]
          omega
        rw [hwhole]
      · have hscan := @scanNano_padded 9 nano (by decide) (by decide) (by omega) rest hrest
        rw [List.cons_append, hscan]
        have hwhole : nano * Nat.pow 10 (9 - 9) = nano := Nat.mul_one nano
        rw [hwhole]

/-! ### Points in time -/

theorem subtractOffset_zero {instant : Instant} (h : instant.IsValid) :
    subtractOffset instant 0 = instant := by
  obtain ⟨date, hour, minute, second, nano⟩ := instant
  have hhour : hour < 24 := h.hour
  have hminute : minute < 60 := h.minute
  have hlow : ¬ ((hour : Int) * 60 + minute - 0 < 0) := by omega
  have hhigh : ¬ ((hour : Int) * 60 + minute - 0 ≥ 1440) := by omega
  have hours : (((hour : Int) * 60 + minute - 0) % 1440 / 60).toNat = hour := by omega
  have minutes : (((hour : Int) * 60 + minute - 0) % 1440 % 60).toNat = minute := by omega
  simp only [subtractOffset, hlow, hhigh, if_false, hours, minutes]

theorem endsNumeral_cons {c : Char} (h : c.isDigit = false) (rest : List Char) :
    EndsDigits (c :: rest) := by
  intro d hd
  cases hd
  exact h

theorem endsNumeral_nanoChars (nano : Nat) : EndsDigits (nanoChars nano ++ ['Z']) := by
  unfold nanoChars
  split
  · exact endsNumeral_cons (by decide) []
  · split
    · exact endsNumeral_cons (by decide) _
    · split
      · exact endsNumeral_cons (by decide) _
      · exact endsNumeral_cons (by decide) _

theorem daysInMonth_le (year : Int) (month : Nat) : Date.daysInMonth year month ≤ 31 := by
  unfold Date.daysInMonth
  split
  · split <;> decide
  · split <;> decide

/-- **A point in time is read from its text.** -/
theorem ofText_text {instant : Instant} (h : instant.IsValid) :
    ofText instant.text = .ok instant := by
  obtain ⟨⟨year, month, day⟩, hour, minute, second, nano⟩ := instant
  obtain ⟨hdate, hhour, hminute, hsecond, hnano⟩ := h
  dsimp only at hhour hminute hsecond hnano
  have hvalid := hdate
  simp only [Date.isValid, Bool.and_eq_true, decide_eq_true_eq] at hdate
  obtain ⟨⟨⟨⟨hreach, hmonth⟩, hmonth'⟩, hday⟩, hday'⟩ := hdate
  have hday31 : day ≤ 31 := Nat.le_trans hday' (daysInMonth_le year month)
  -- each scanner takes its part off the front, and a mark or the letters T and Z end a numeral
  have hscanYear := fun rest => scanYear_yearChars hreach (endsNumeral_cons (c := '-') rfl rest)
  have hscanMonth := fun rest => scanPair_padded hmonth hmonth' (by omega)
    (endsNumeral_cons (c := '-') rfl rest)
  have hscanDay := fun rest => scanPair_padded hday hday31 (by omega)
    (endsNumeral_cons (c := 'T') rfl rest)
  have hscanHour := fun rest => scanPair_padded (Nat.zero_le hour) (Nat.le_of_lt_succ hhour)
    (by omega) (endsNumeral_cons (c := ':') rfl rest)
  have hscanMinute := fun rest => scanPair_padded (Nat.zero_le minute) (Nat.le_of_lt_succ hminute)
    (by omega) (endsNumeral_cons (c := ':') rfl rest)
  have hscanSecond := scanPair_padded (Nat.zero_le second) hsecond (by omega)
    (endsNumeral_nanoChars nano)
  have hscanNano := scanNano_nanoChars hnano (endsNumeral_cons (c := 'Z') rfl []) (by decide)
  have hdash := @scanMark_self '-' (by decide)
  have hcolon := @scanMark_self ':' (by decide)
  have hoffset : scanOffset (trimStart ['Z']) = .ok (0, []) := by
    rw [trimStart_cons (by decide)]
    rfl
  have hsame := subtractOffset_zero ⟨hvalid, hhour, hminute, hsecond, hnano⟩
  simp only [ofText, text, String.toList_ofList, ofChars, List.append_assoc, List.cons_append,
    hscanYear, hdash, hscanMonth, hscanDay, hscanHour, hcolon, hscanMinute, hscanSecond, hscanNano,
    hoffset, hvalid, hsame, hreach, bind, Except.bind, pure, Except.pure]
  rfl

theorem reads_instant {instant : Instant} (h : instant.IsValid) {levels : Nat} :
    codec.Reads levels instant instant := by
  refine ⟨trivial, ?_⟩
  intro depth _
  simp only [codec, ofText_text h]

end Instant

/-! ### Lines of a listing -/

/-- A line with a time that exists is found again with its time. -/
theorem Summary.reads_timed {summary : Summary} (h : ∀ time ∈ summary.updatedAt, time.IsValid)
    {levels : Nat} : Summary.schema.codec.Reads (levels + 1) summary summary := by
  have htime : (Codec.option Instant.codec).Reads levels summary.updatedAt summary.updatedAt := by
    apply Codec.reads_option
    intro time htime
    refine ⟨Instant.reads_instant (h time htime), ?_⟩
    intro hnull
    cases hnull
  exact Schema.reads (by decide) <|
    .field (Codec.reads_text _) <| .field (Codec.reads_text _) <| .field (Codec.reads_text _) <|
    .field (Codec.reads_word _) <| .field htime .nil

end LanguageBlueprint
