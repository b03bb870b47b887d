/-
  LanguageBlueprint/Text/Blank.lean
  =================================
  **Blank characters and trimming.**  A character is blank when it has the
  Unicode property White_Space.  Names, words, symbols and vocabulary texts are
  compared after the blanks at both ends are taken off, and a text that is all
  blank counts as absent.

    * a text is blank exactly when nothing of it is left   — `isBlank_iff_trim`;
    * trimming twice is trimming once                      — `trim_trim`;
    * what is left neither begins nor ends with a blank    — `trimChars_head`,
      `trimChars_last`;
    * blanks added at an end change nothing                — `trimChars_blank_append`,
      `trimChars_append_blank`.
-/

namespace LanguageBlueprint.Text

/-- The characters with the Unicode property White_Space. -/
def isBlankChar (c : Char) : Bool :=
  let code := c.toNat
  (0x09 ≤ code && code ≤ 0x0D) || code == 0x20 || code == 0x85 || code == 0xA0 ||
  code == 0x1680 || (0x2000 ≤ code && code ≤ 0x200A) || code == 0x2028 || code == 0x2029 ||
  code == 0x202F || code == 0x205F || code == 0x3000

/-- The characters left when the blanks at both ends are taken off. -/
def trimChars (cs : List Char) : List Char :=
  ((cs.dropWhile isBlankChar).reverse.dropWhile isBlankChar).reverse

def trim (text : String) : String := String.ofList (trimChars text.toList)

def trimStart (cs : List Char) : List Char := cs.dropWhile isBlankChar

def isBlank (text : String) : Bool := text.toList.all isBlankChar

/-! ### Laws of trimming -/

theorem dropWhile_eq_nil_iff_all {p : Char → Bool} {cs : List Char} :
    cs.dropWhile p = [] ↔ cs.all p = true := by
  induction cs with
  | nil => simp
  | cons c cs ih => by_cases h : p c <;> simp [h, ih]

theorem dropWhile_head {p : Char → Bool} {cs : List Char} {c : Char} {rest : List Char}
    (h : cs.dropWhile p = c :: rest) : p c = false := by
  have := List.head?_dropWhile_not p cs
  rw [h] at this
  simpa using this

theorem dropWhile_eq_self {p : Char → Bool} {cs : List Char}
    (h : ∀ c ∈ cs.head?, p c = false) : cs.dropWhile p = cs := by
  cases cs with
  | nil => rfl
  | cons c cs => simp [h c (by simp)]

theorem trimChars_eq_nil_iff {cs : List Char} :
    trimChars cs = [] ↔ cs.all isBlankChar = true := by
  unfold trimChars
  rw [List.reverse_eq_nil_iff, dropWhile_eq_nil_iff_all, List.all_reverse]
  constructor
  · intro h
    cases hd : cs.dropWhile isBlankChar with
    | nil => exact dropWhile_eq_nil_iff_all.mp hd
    | cons c rest =>
        rw [hd] at h
        simp [dropWhile_head hd] at h
  · intro h
    rw [dropWhile_eq_nil_iff_all.mpr h]
    rfl

/-- A text is blank exactly when trimming leaves nothing of it. -/
theorem isBlank_iff_trim {text : String} : isBlank text = true ↔ trim text = "" := by
  unfold isBlank trim
  rw [← trimChars_eq_nil_iff]
  constructor
  · intro h; rw [h]
  · intro h
    have := congrArg String.toList h
    simpa using this

theorem trimChars_head {cs : List Char} {c : Char} {rest : List Char}
    (h : trimChars cs = c :: rest) : isBlankChar c = false := by
  unfold trimChars at h
  cases hd : cs.dropWhile isBlankChar with
  | nil => simp [hd] at h
  | cons d ds =>
      have hblank := dropWhile_head hd
      rw [hd, List.reverse_cons] at h
      have hdrop : (ds.reverse ++ [d]).dropWhile isBlankChar
          = ds.reverse.dropWhile isBlankChar ++ [d] := by
        generalize ds.reverse = es
        induction es with
        | nil => simp [hblank]
        | cons e es ih => by_cases he : isBlankChar e <;> simp [he, ih]
      rw [hdrop, List.reverse_append] at h
      simp at h
      exact h.1 ▸ hblank

theorem trimChars_last {cs : List Char} {c : Char}
    (h : (trimChars cs).getLast? = some c) : isBlankChar c = false := by
  unfold trimChars at h
  rw [List.getLast?_reverse] at h
  cases hd : (cs.dropWhile isBlankChar).reverse.dropWhile isBlankChar with
  | nil => simp [hd] at h
  | cons d ds =>
      simp [hd] at h
      exact h ▸ dropWhile_head hd

theorem trimChars_eq_self {cs : List Char} (hhead : ∀ c ∈ cs.head?, isBlankChar c = false)
    (hlast : ∀ c ∈ cs.getLast?, isBlankChar c = false) : trimChars cs = cs := by
  unfold trimChars
  rw [dropWhile_eq_self hhead, dropWhile_eq_self (by simpa using hlast), List.reverse_reverse]

theorem trimChars_blank_append {blanks : List Char} (h : ∀ c ∈ blanks, isBlankChar c = true)
    (cs : List Char) : trimChars (blanks ++ cs) = trimChars cs := by
  rw [trimChars, List.dropWhile_append_of_pos h, trimChars]

theorem trimChars_append_blank {blanks : List Char} (h : ∀ c ∈ blanks, isBlankChar c = true)
    (cs : List Char) : trimChars (cs ++ blanks) = trimChars cs := by
  have hback : ∀ c ∈ blanks.reverse, isBlankChar c = true := by
    simpa using h
  rw [trimChars, trimChars, List.dropWhile_append]
  cases hrest : cs.dropWhile isBlankChar with
  | nil => simp [dropWhile_eq_nil_iff_all.mpr (List.all_eq_true.mpr h)]
  | cons c rest =>
      rw [List.isEmpty_cons, if_neg Bool.false_ne_true, List.reverse_append,
        List.dropWhile_append_of_pos hback]

theorem trimChars_trimChars (cs : List Char) : trimChars (trimChars cs) = trimChars cs := by
  apply trimChars_eq_self
  · intro c hc
    cases h : trimChars cs with
    | nil => simp [h] at hc
    | cons d ds =>
        simp [h] at hc
        exact hc ▸ trimChars_head h
  · intro c hc
    exact trimChars_last hc

theorem trim_trim (text : String) : trim (trim text) = trim text := by
  simp [trim, trimChars_trimChars]

end LanguageBlueprint.Text
