/-
  LanguageBlueprint/Proofs/Text/Digits.lean
  =========================================
  **Runs of digits.**  A run of digits is taken as a whole from a text, if nothing
  behind it goes on with a digit, and it is read as the number it writes.  Digits
  with or without a sign are read as an integer, even with blanks around them.

    * taking a run from a text   — `takeWhile_digits`, `dropWhile_digits`;
    * reading it                 — `natural?_of_isDigits`;
    * integers as text           — `integer?_of_writes`, `writesInteger_toString`;
    * integers among blanks      — `integer?_trimChars`.
-/
import LanguageBlueprint.Number.IntegerText
import LanguageBlueprint.Text.Blank

namespace LanguageBlueprint.Number

/-- At least one digit, and nothing else. -/
structure IsDigits (cs : List Char) : Prop where
  nonempty : cs ≠ []
  digits : ∀ c ∈ cs, c.isDigit = true

/-- What follows does not go on with a digit. -/
def EndsDigits (rest : List Char) : Prop := ∀ c ∈ rest.head?, c.isDigit = false

theorem isBlankChar_of_isDigit {c : Char} (h : c.isDigit = true) : Text.isBlankChar c = false := by
  simp only [Char.isDigit, Bool.and_eq_true, decide_eq_true_eq, ge_iff_le] at h
  have hlow : 48 ≤ c.toNat := h.1
  have hhigh : c.toNat ≤ 57 := h.2
  simp only [Text.isBlankChar]
  simp
  omega

theorem isDigit_ne {c mark : Char} (h : c.isDigit = true) (hmark : mark.isDigit = false) :
    c ≠ mark := by
  rintro rfl
  rw [hmark] at h
  cases h

theorem isDigits_toDigits (n : Nat) : IsDigits (Nat.toDigits 10 n) :=
  ⟨Nat.toDigits_ne_nil, all_isDigit_toDigits n⟩

theorem takeWhile_digits {cs rest : List Char} (h : ∀ c ∈ cs, c.isDigit = true)
    (hrest : EndsDigits rest) : (cs ++ rest).takeWhile Char.isDigit = cs := by
  rw [List.takeWhile_append_of_pos h]
  cases rest with
  | nil => rw [List.takeWhile_nil, List.append_nil]
  | cons c rest =>
      have hc : ¬ c.isDigit = true := by simp [hrest c rfl]
      rw [List.takeWhile_cons_of_neg hc, List.append_nil]

theorem dropWhile_digits {cs rest : List Char} (h : ∀ c ∈ cs, c.isDigit = true)
    (hrest : EndsDigits rest) : (cs ++ rest).dropWhile Char.isDigit = rest := by
  rw [List.dropWhile_append_of_pos h]
  cases rest with
  | nil => rfl
  | cons c rest =>
      have hc : ¬ c.isDigit = true := by simp [hrest c rfl]
      exact List.dropWhile_cons_of_neg hc

theorem natural?_of_isDigits {cs : List Char} (h : IsDigits cs) :
    natural? cs = some (Nat.ofDigitChars 10 cs 0) := by
  have hall : cs.all Char.isDigit = true := List.all_eq_true.mpr h.digits
  simp [natural?, h.nonempty, hall]

/-! ### Integers among blanks -/

/-- The characters write the integer: digits, with a sign or without. -/
inductive WritesInteger : Int → List Char → Prop where
  | plain {cs : List Char} (h : IsDigits cs) : WritesInteger (Nat.ofDigitChars 10 cs 0) cs
  | plus {cs : List Char} (h : IsDigits cs) : WritesInteger (Nat.ofDigitChars 10 cs 0) ('+' :: cs)
  | minus {cs : List Char} (h : IsDigits cs) :
      WritesInteger (-(Nat.ofDigitChars 10 cs 0 : Int)) ('-' :: cs)

theorem integer?_of_writes {k : Int} {cs : List Char} (h : WritesInteger k cs) :
    integer? cs = some k := by
  cases h with
  | plain hdigits =>
      obtain ⟨c, tail, rfl⟩ := List.exists_cons_of_ne_nil hdigits.nonempty
      have hc : c.isDigit = true := hdigits.digits c (by simp)
      rw [integer?.eq_def]
      split
      · rename_i heq
        exact absurd (List.cons.inj heq).1 (isDigit_ne hc (by decide))
      · rename_i heq
        exact absurd (List.cons.inj heq).1 (isDigit_ne hc (by decide))
      · rw [natural?_of_isDigits hdigits]
        rfl
  | plus hdigits =>
      simp only [integer?, natural?_of_isDigits hdigits]
      rfl
  | minus hdigits =>
      simp only [integer?, natural?_of_isDigits hdigits]
      rfl

/-- An integer is written in decimal. -/
theorem writesInteger_toString (n : Int) : WritesInteger n (toString n).toList := by
  have hdigits : ∀ m : Nat, Nat.ofDigitChars 10 (Nat.toDigits 10 m) 0 = m :=
    fun m => Nat.ofDigitChars_ten_toDigits
  cases n with
  | ofNat m =>
      have hchars : (toString (Int.ofNat m)).toList = Nat.toDigits 10 m := String.toList_ofList
      have hwrites := WritesInteger.plain (isDigits_toDigits m)
      rw [hdigits] at hwrites
      rw [hchars]
      exact hwrites
  | negSucc m =>
      have hchars : (toString (Int.negSucc m)).toList = '-' :: Nat.toDigits 10 (m + 1) := by
        have hsign : (toString (Int.negSucc m)).toList = '-' :: (m + 1).repr.toList :=
          String.toList_append
        rw [hsign, Nat.repr, String.toList_ofList]
      have hwrites := WritesInteger.minus (isDigits_toDigits (m + 1))
      rw [hdigits] at hwrites
      rw [hchars]
      exact hwrites

/-- An integer consists of digits and a sign. -/
theorem WritesInteger.chars {k : Int} {cs : List Char} (h : WritesInteger k cs) {c : Char}
    (hc : c ∈ cs) : c.isDigit = true ∨ c = '+' ∨ c = '-' := by
  cases h with
  | plain hdigits => exact .inl (hdigits.digits c hc)
  | plus hdigits =>
      rcases List.mem_cons.mp hc with hsign | htail
      · exact .inr (.inl hsign)
      · exact .inl (hdigits.digits c htail)
  | minus hdigits =>
      rcases List.mem_cons.mp hc with hsign | htail
      · exact .inr (.inr hsign)
      · exact .inl (hdigits.digits c htail)

theorem not_mem_toString {c : Char} (hdigit : c.isDigit = false) (hsign : c ≠ '+' ∧ c ≠ '-')
    (n : Int) : c ∉ (toString n).toList := by
  intro hc
  rcases (writesInteger_toString n).chars hc with htrue | hplus | hminus
  · rw [hdigit] at htrue
    cases htrue
  · exact hsign.1 hplus
  · exact hsign.2 hminus

/-- No character of an integer is blank. -/
theorem WritesInteger.not_blank {k : Int} {cs : List Char} (h : WritesInteger k cs) :
    ∀ c ∈ cs, Text.isBlankChar c = false := by
  intro c hc
  rcases h.chars hc with hdigit | rfl | rfl
  · exact isBlankChar_of_isDigit hdigit
  · rfl
  · rfl

/-- The blanks around characters of which none is blank are taken off. -/
theorem trimChars_between {front cs back : List Char}
    (hfront : ∀ c ∈ front, Text.isBlankChar c = true) (hcs : ∀ c ∈ cs, Text.isBlankChar c = false)
    (hback : ∀ c ∈ back, Text.isBlankChar c = true) :
    Text.trimChars (front ++ cs ++ back) = cs := by
  rw [Text.trimChars_append_blank hback, Text.trimChars_blank_append hfront]
  exact Text.trimChars_eq_self (fun c hc => hcs c (List.mem_of_mem_head? hc))
    (fun c hc => hcs c (List.mem_of_getLast? hc))

theorem integer?_trimChars {k : Int} {front cs back : List Char} (h : WritesInteger k cs)
    (hfront : ∀ c ∈ front, Text.isBlankChar c = true)
    (hback : ∀ c ∈ back, Text.isBlankChar c = true) :
    integer? (Text.trimChars (front ++ cs ++ back)) = some k := by
  rw [trimChars_between hfront h.not_blank hback, integer?_of_writes h]

end LanguageBlueprint.Number
