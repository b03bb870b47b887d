/-
  LanguageBlueprint/Proofs/Json/Token.lean
  ========================================
  **Numbers and strings as JSON allows them.**  A number is written with an
  optional sign, digits without a leading zero, and perhaps a fraction and an
  exponent.  A string is a run of characters and escapes between quotes; it holds
  a text unless some escape is half of a surrogate pair.  The reader takes each of
  them as a whole.

    * the grammar of numbers   — `SpellsNumeral`, `scan_of_spells`;
    * the grammar of strings   — `SpellsString`, `SpellsString.scan`;
    * what a writer writes     — `spells_ofInt`, `spells_stringChars`.
-/
import LanguageBlueprint.Json.Numeral
import LanguageBlueprint.Json.Strings
import LanguageBlueprint.Proofs.Text.Digits

namespace LanguageBlueprint

open Number

namespace Numeral

/-! ### Numbers -/

/-- Digits of which the first is no zero, or a single zero. -/
structure IsWhole (cs : List Char) : Prop extends IsDigits cs where
  noLeadingZero : cs.head? = some '0' → cs.length ≤ 1

/-- The characters write the digits after the point, if there are any. -/
inductive SpellsFraction : List Char → List Char → Prop where
  | absent : SpellsFraction [] []
  | digits {cs : List Char} (h : IsDigits cs) : SpellsFraction cs ('.' :: cs)

/-- The characters write the exponent, if there is one. -/
inductive SpellsExponent : Option Int → List Char → Prop where
  | absent : SpellsExponent none []
  | plain {mark : Char} {cs : List Char} (hmark : mark = 'e' ∨ mark = 'E') (h : IsDigits cs) :
      SpellsExponent (some (Nat.ofDigitChars 10 cs 0 : Int)) (mark :: cs)
  | plus {mark : Char} {cs : List Char} (hmark : mark = 'e' ∨ mark = 'E') (h : IsDigits cs) :
      SpellsExponent (some (Nat.ofDigitChars 10 cs 0 : Int)) (mark :: '+' :: cs)
  | minus {mark : Char} {cs : List Char} (hmark : mark = 'e' ∨ mark = 'E') (h : IsDigits cs) :
      SpellsExponent (some (-(Nat.ofDigitChars 10 cs 0 : Int))) (mark :: '-' :: cs)

/-- The characters write the number. -/
inductive SpellsNumeral : Numeral → List Char → Prop where
  | parts {whole fraction afterPoint afterMark : List Char} {exponent : Option Int}
      (negative : Bool) (hwhole : IsWhole whole) (hfraction : SpellsFraction fraction afterPoint)
      (hexponent : SpellsExponent exponent afterMark) :
      SpellsNumeral ⟨negative, whole, fraction, exponent⟩
        ((if negative then ['-'] else []) ++ whole ++ afterPoint ++ afterMark)

/-! ### Reading numbers -/

theorem EndsInteger.endsDigits {rest : List Char} (h : EndsInteger rest) : EndsDigits rest :=
  fun c hc => (h c hc).1

/-- Digits that follow the mark of an exponent begin with no sign. -/
theorem scanExponent_digits {cs rest : List Char} (h : IsDigits cs) (hrest : EndsDigits rest) :
    scanExponent (cs ++ rest) = some ((Nat.ofDigitChars 10 cs 0 : Int), rest) := by
  obtain ⟨c, tail, rfl⟩ := List.exists_cons_of_ne_nil h.nonempty
  have hc : c.isDigit = true := h.digits c (by simp)
  have hsign : c ≠ '+' ∧ c ≠ '-' := by
    constructor
    · rintro rfl
      exact absurd hc (by decide)
    · rintro rfl
      exact absurd hc (by decide)
  rw [scanExponent]
  · rw [takeWhile_digits h.digits hrest, dropWhile_digits h.digits hrest, natural?_of_isDigits h]
    rfl
  · intro more heq
    exact hsign.1 (List.cons.inj heq).1
  · intro more heq
    exact hsign.2 (List.cons.inj heq).1

theorem scanExponent_plus {cs rest : List Char} (h : IsDigits cs) (hrest : EndsDigits rest) :
    scanExponent ('+' :: cs ++ rest) = some ((Nat.ofDigitChars 10 cs 0 : Int), rest) := by
  simp only [scanExponent, List.cons_append, takeWhile_digits h.digits hrest,
    dropWhile_digits h.digits hrest, natural?_of_isDigits h]
  rfl

theorem scanExponent_minus {cs rest : List Char} (h : IsDigits cs) (hrest : EndsDigits rest) :
    scanExponent ('-' :: cs ++ rest) = some (-(Nat.ofDigitChars 10 cs 0 : Int), rest) := by
  simp only [scanExponent, List.cons_append, takeWhile_digits h.digits hrest,
    dropWhile_digits h.digits hrest, natural?_of_isDigits h]
  rfl

theorem scanOptionalExponent_mark {mark : Char} (hmark : mark = 'e' ∨ mark = 'E')
    (cs : List Char) :
    scanOptionalExponent (mark :: cs) =
      (scanExponent cs).map (fun (e, rest) => (some e, rest)) := by
  rcases hmark with rfl | rfl <;> rfl

theorem scanOptionalExponent_of_spells {exponent : Option Int} {cs rest : List Char}
    (h : SpellsExponent exponent cs) (hrest : EndsInteger rest) :
    scanOptionalExponent (cs ++ rest) = some (exponent, rest) := by
  cases h with
  | absent =>
      cases rest with
      | nil => rfl
      | cons c rest =>
          obtain ⟨-, -, hsmall, hcapital⟩ := hrest c (by simp)
          simp [scanOptionalExponent, hsmall, hcapital]
  | plain hmark hdigits =>
      rw [List.cons_append, scanOptionalExponent_mark hmark,
        scanExponent_digits hdigits hrest.endsDigits]
      rfl
  | plus hmark hdigits =>
      rw [List.cons_append, scanOptionalExponent_mark hmark,
        scanExponent_plus hdigits hrest.endsDigits]
      rfl
  | minus hmark hdigits =>
      rw [List.cons_append, scanOptionalExponent_mark hmark,
        scanExponent_minus hdigits hrest.endsDigits]
      rfl

/-- What follows the digits after the point, or before it, continues no digits. -/
theorem SpellsExponent.ends {exponent : Option Int} {cs rest : List Char}
    (h : SpellsExponent exponent cs) (hrest : EndsInteger rest) :
    ∀ c ∈ (cs ++ rest).head?, c.isDigit = false ∧ c ≠ '.' := by
  intro c hc
  cases h with
  | absent => exact ⟨(hrest c hc).1, (hrest c hc).2.1⟩
  | plain hmark hdigits =>
      obtain rfl : _ = c := by simpa using hc
      rcases hmark with rfl | rfl <;> decide
  | plus hmark hdigits =>
      obtain rfl : _ = c := by simpa using hc
      rcases hmark with rfl | rfl <;> decide
  | minus hmark hdigits =>
      obtain rfl : _ = c := by simpa using hc
      rcases hmark with rfl | rfl <;> decide

theorem scanFraction_of_spells {fraction cs rest : List Char} (h : SpellsFraction fraction cs)
    (hrest : ∀ c ∈ rest.head?, c.isDigit = false ∧ c ≠ '.') :
    scanFraction (cs ++ rest) = some (fraction, rest) := by
  have hends : EndsDigits rest := fun c hc => (hrest c hc).1
  cases h with
  | absent =>
      cases rest with
      | nil => rfl
      | cons c rest =>
          have hpoint := (hrest c (by simp)).2
          rw [List.nil_append, scanFraction.eq_def]
          split
          · simp_all
          · rfl
  | digits hdigits =>
      simp only [scanFraction, List.cons_append, takeWhile_digits hdigits.digits hends,
        dropWhile_digits hdigits.digits hends, List.isEmpty_eq_false_iff.mpr hdigits.nonempty,
        Bool.false_eq_true, if_false]

theorem SpellsFraction.ends {fraction cs rest : List Char} (h : SpellsFraction fraction cs)
    (hrest : EndsDigits rest) : EndsDigits (cs ++ rest) := by
  cases h with
  | absent => exact hrest
  | digits hdigits =>
      intro c hc
      obtain rfl : '.' = c := by simpa using hc
      decide

theorem scanUnsigned_of_spells {whole fraction afterPoint afterMark rest : List Char}
    {exponent : Option Int} (negative : Bool) (hwhole : IsWhole whole)
    (hfraction : SpellsFraction fraction afterPoint) (hexponent : SpellsExponent exponent afterMark)
    (hrest : EndsInteger rest) :
    scanUnsigned negative (whole ++ (afterPoint ++ (afterMark ++ rest))) =
      some (⟨negative, whole, fraction, exponent⟩, rest) := by
  have hmark := hexponent.ends hrest
  have hends := hfraction.ends (fun c hc => (hmark c hc).1)
  have hzero : ¬ (whole.head? = some '0' ∧ 1 < whole.length) := by
    rintro ⟨hhead, hlength⟩
    have := hwhole.noLeadingZero hhead
    omega
  unfold scanUnsigned
  simp only [takeWhile_digits hwhole.digits hends, dropWhile_digits hwhole.digits hends]
  rw [if_neg (by simpa [hwhole.nonempty] using hzero), scanFraction_of_spells hfraction hmark]
  simp [scanOptionalExponent_of_spells hexponent hrest]

/-- **A number is read as it is written**, if nothing continues it. -/
theorem scan_of_spells {numeral : Numeral} {cs rest : List Char} (h : SpellsNumeral numeral cs)
    (hrest : EndsInteger rest) : scan (cs ++ rest) = some (numeral, rest) := by
  obtain ⟨negative, hwhole, hfraction, hexponent⟩ := h
  have hscan := scanUnsigned_of_spells negative hwhole hfraction hexponent hrest
  cases negative with
  | true => simpa [scan] using hscan
  | false =>
      obtain ⟨c, tail, rfl⟩ := List.exists_cons_of_ne_nil hwhole.nonempty
      have hc : c.isDigit = true := hwhole.digits c (by simp)
      have hminus : c ≠ '-' := by
        rintro rfl
        exact absurd hc (by decide)
      simp only [Bool.false_eq_true, if_false, List.nil_append, List.append_assoc,
        List.cons_append] at hscan ⊢
      rw [scan.eq_def]
      split
      · rename_i heq
        rw [List.cons.injEq] at heq
        exact absurd heq.1 hminus
      · exact hscan

/-- A number begins with its sign or with a digit. -/
theorem SpellsNumeral.head {numeral : Numeral} {cs : List Char} (h : SpellsNumeral numeral cs) :
    ∃ c tail, cs = c :: tail ∧ (c = '-' ∨ c.isDigit = true) := by
  obtain ⟨negative, hwhole, hfraction, hexponent⟩ := h
  cases negative with
  | true => exact ⟨'-', _, rfl, .inl rfl⟩
  | false =>
      obtain ⟨c, tail, rfl⟩ := List.exists_cons_of_ne_nil hwhole.nonempty
      exact ⟨c, _, rfl, .inr (hwhole.digits c (by simp))⟩

theorem isWhole_toDigits (n : Nat) : IsWhole (Nat.toDigits 10 n) where
  toIsDigits := isDigits_toDigits n
  noLeadingZero hhead := by
    cases n with
    | zero => decide
    | succ n => exact absurd hhead (toDigits_head?_ne_zero (Nat.succ_pos n))

theorem spells_ofInt (n : Int) : SpellsNumeral (ofInt n) (ofInt n).chars := by
  have hparts := SpellsNumeral.parts (decide (n < 0)) (isWhole_toDigits n.natAbs) .absent .absent
  simpa [ofInt, chars] using hparts

end Numeral

/-! ### Strings -/

namespace Json

/-- The characters write the pieces of a string, between its quotes. -/
inductive SpellsPieces : List Piece → List Char → Prop where
  | nil : SpellsPieces [] []
  | plain {c : Char} {pieces : List Piece} {cs : List Char} (hquote : c ≠ '"') (hslash : c ≠ '\\')
      (hcontrol : 0x20 ≤ c.toNat) (h : SpellsPieces pieces cs) :
      SpellsPieces (.char c :: pieces) (c :: cs)
  | short {e c : Char} {pieces : List Piece} {cs : List Char} (hescape : shortEscape? e = some c)
      (h : SpellsPieces pieces cs) : SpellsPieces (.char c :: pieces) ('\\' :: e :: cs)
  | unit {a b c d : Char} {n : Nat} {pieces : List Piece} {cs : List Char}
      (hunit : hexUnit? a b c d = some n) (h : SpellsPieces pieces cs) :
      SpellsPieces (.unit n :: pieces) ('\\' :: 'u' :: a :: b :: c :: d :: cs)

theorem scanPieces_plain {c : Char} (hquote : c ≠ '"') (hslash : c ≠ '\\')
    (hcontrol : 0x20 ≤ c.toNat) (rest : List Char) :
    scanPieces (c :: rest) =
      (scanPieces rest).map (fun (pieces, after) => (.char c :: pieces, after)) := by
  have hkept : ¬ (c = '\\' ∨ c.toNat < 0x20) := by
    rintro (h | h)
    · exact hslash h
    · omega
  rw [scanPieces.eq_def]
  split
  · simp_all
  · simp_all
  · simp_all
  · simp_all
  · rename_i heq
    obtain ⟨rfl, rfl⟩ := List.cons.inj heq
    rw [if_neg hkept]

theorem scanPieces_short {e c : Char} (hescape : shortEscape? e = some c) (rest : List Char) :
    scanPieces ('\\' :: e :: rest) =
      (scanPieces rest).map (fun (pieces, after) => (.char c :: pieces, after)) := by
  have hunit : e ≠ 'u' := by
    rintro rfl
    exact absurd hescape (by simp [shortEscape?])
  rw [scanPieces.eq_def]
  split
  · simp_all
  · simp_all
  · simp_all
  · rename_i heq
    obtain ⟨-, heq⟩ := List.cons.inj heq
    obtain ⟨rfl, rfl⟩ := List.cons.inj heq
    rw [hescape]
  · rename_i hshort heq
    obtain ⟨hslash, htail⟩ := List.cons.inj heq
    exact absurd htail.symm (hshort e rest hslash.symm)

/-- **A string is read up to its closing quote.** -/
theorem scanPieces_of_spells {pieces : List Piece} {cs : List Char} (h : SpellsPieces pieces cs)
    (rest : List Char) : scanPieces (cs ++ '"' :: rest) = some (pieces, rest) := by
  induction h with
  | nil => simp [scanPieces]
  | plain hquote hslash hcontrol h ih =>
      rw [List.cons_append, scanPieces_plain hquote hslash hcontrol, ih]
      rfl
  | short hescape h ih =>
      rw [List.cons_append, List.cons_append, scanPieces_short hescape, ih]
      rfl
  | unit hunit h ih =>
      simp only [List.cons_append, scanPieces, hunit, ih, Option.map_some]

theorem spells_escapeChar (c : Char) {pieces : List Piece} {cs : List Char}
    (h : SpellsPieces pieces cs) :
    SpellsPieces (writtenPiece c :: pieces) (escapeChar c ++ cs) := by
  unfold escapeChar writtenPiece
  by_cases h1 : c = '"'
  · subst h1; exact .short rfl h
  by_cases h2 : c = '\\'
  · subst h2; exact .short rfl h
  by_cases h3 : c = '\x08'
  · subst h3; exact .short rfl h
  by_cases h4 : c = '\x0c'
  · subst h4; exact .short rfl h
  by_cases h5 : c = '\n'
  · subst h5; exact .short rfl h
  by_cases h6 : c = '\r'
  · subst h6; exact .short rfl h
  by_cases h7 : c = '\t'
  · subst h7; exact .short rfl h
  by_cases h8 : c.toNat < 0x20
  · simp only [h1, h2, h3, h4, h5, h6, h7, h8, or_self, if_true, if_false]
    exact .unit (hexUnit?_control h8) h
  · simp only [h1, h2, h3, h4, h5, h6, h7, h8, or_self, if_false]
    exact .plain h1 h2 (by omega) h

theorem spells_flatMap_escapeChar (cs : List Char) :
    SpellsPieces (cs.map writtenPiece) (cs.flatMap escapeChar) := by
  induction cs with
  | nil => exact .nil
  | cons c cs ih => exact spells_escapeChar c ih

/-- The characters write a string, quotes included; it holds the text, or none if an escape in it
is half of a surrogate pair. -/
inductive SpellsString : Option String → List Char → Prop where
  | quoted {pieces : List Piece} {cs : List Char} (h : SpellsPieces pieces cs) :
      SpellsString (textOfPieces? pieces) ('"' :: (cs ++ ['"']))

theorem spells_stringChars (s : String) : SpellsString (some s) (stringChars s) := by
  have hquoted := SpellsString.quoted (spells_flatMap_escapeChar s.toList)
  rw [textOfPieces?_written] at hquoted
  exact hquoted

/-- A string is a quote, and characters in which its pieces are found. -/
theorem SpellsString.scan {s? : Option String} {cs : List Char} (h : SpellsString s? cs) :
    ∃ pieces inner, cs = '"' :: inner ∧ textOfPieces? pieces = s? ∧
      ∀ rest, scanPieces (inner ++ rest) = some (pieces, rest) := by
  obtain ⟨hpieces⟩ := h
  refine ⟨_, _, rfl, rfl, fun rest => ?_⟩
  rw [List.append_assoc]
  exact scanPieces_of_spells hpieces rest

end Json

end LanguageBlueprint
