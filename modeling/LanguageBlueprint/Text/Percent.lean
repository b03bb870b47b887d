/-
  LanguageBlueprint/Text/Percent.lean
  ===================================
  **Percent-encoding.**  A character that may not stand for itself is written as
  the bytes of its UTF-8 form, each a percent sign and two capital hexadecimal
  digits.  Decoding leaves a percent sign without two digits as it is, and fails
  when the bytes are not UTF-8.

  If the percent sign may not stand for itself, then every percent sign of an
  encoded text begins a byte, and decoding finds the bytes of the text.  What an
  encoded text consists of is told by `mem_percentEncode`: kept characters, percent
  signs and hexadecimal digits.

    * one byte                     — `percentDecodeBytes_percentByte`;
    * the bytes of a text          — `percentDecodeBytes_percentEncode`;
    * the text                     — `percentDecode?_percentEncode`.
-/

namespace LanguageBlueprint.Text

def capitalHexDigit (n : Nat) : Char :=
  if n < 10 then Char.ofNat (48 + n) else Char.ofNat (55 + n)

/-- A byte as a percent sign and two digits. -/
def percentByte (b : UInt8) : List Char :=
  ['%', capitalHexDigit (b.toNat / 16), capitalHexDigit (b.toNat % 16)]

/-- Writes a character, encoded unless it may stand for itself. -/
def percentChar (keep : Char → Bool) (c : Char) : List Char :=
  if keep c then [c] else (String.utf8EncodeChar c).flatMap percentByte

def percentEncode (keep : Char → Bool) (cs : List Char) : List Char :=
  cs.flatMap (percentChar keep)

def percentDigit? (c : Char) : Option Nat :=
  if '0' ≤ c && c ≤ '9' then some (c.toNat - 48)
  else if 'a' ≤ c && c ≤ 'f' then some (c.toNat - 87)
  else if 'A' ≤ c && c ≤ 'F' then some (c.toNat - 55)
  else none

def percentDecodeBytes : List Char → List UInt8
  | [] => []
  | '%' :: a :: b :: rest =>
      match percentDigit? a, percentDigit? b with
      | some high, some low => UInt8.ofNat (high * 16 + low) :: percentDecodeBytes rest
      | _, _ => String.utf8EncodeChar '%' ++ percentDecodeBytes (a :: b :: rest)
  | c :: rest => String.utf8EncodeChar c ++ percentDecodeBytes rest

/-- The text that is percent-encoded; none when its bytes are not UTF-8. -/
def percentDecode? (cs : List Char) : Option String :=
  String.fromUTF8? ⟨(percentDecodeBytes cs).toArray⟩

/-! ### What is encoded is decoded again -/

theorem percentDigit?_capitalHexDigit {n : Nat} (h : n < 16) :
    percentDigit? (capitalHexDigit n) = some n := by
  have hall : ∀ m : Fin 16, percentDigit? (capitalHexDigit m) = some m.val := by decide
  exact hall ⟨n, h⟩

theorem percentDecodeBytes_percentByte (b : UInt8) (rest : List Char) :
    percentDecodeBytes (percentByte b ++ rest) = b :: percentDecodeBytes rest := by
  have hb : b.toNat < 256 := b.toNat_lt
  have hhigh : b.toNat / 16 < 16 := by omega
  have hlow : b.toNat % 16 < 16 := by omega
  have hwhole : b.toNat / 16 * 16 + b.toNat % 16 = b.toNat := by omega
  simp only [percentByte, List.cons_append, List.nil_append, percentDecodeBytes,
    percentDigit?_capitalHexDigit hhigh, percentDigit?_capitalHexDigit hlow, hwhole,
    UInt8.ofNat_toNat]

theorem percentDecodeBytes_flatMap_percentByte (bs : List UInt8) (rest : List Char) :
    percentDecodeBytes (bs.flatMap percentByte ++ rest) = bs ++ percentDecodeBytes rest := by
  induction bs with
  | nil => rfl
  | cons b bs ih =>
      rw [List.flatMap_cons, List.append_assoc, percentDecodeBytes_percentByte, ih]
      rfl

theorem percentDecodeBytes_cons {c : Char} (h : c ≠ '%') (rest : List Char) :
    percentDecodeBytes (c :: rest) = String.utf8EncodeChar c ++ percentDecodeBytes rest := by
  rw [percentDecodeBytes]
  intro a b more hc
  exact absurd hc h

theorem percentDecodeBytes_percentChar {keep : Char → Bool} (hmark : keep '%' = false) (c : Char)
    (rest : List Char) :
    percentDecodeBytes (percentChar keep c ++ rest) =
      String.utf8EncodeChar c ++ percentDecodeBytes rest := by
  unfold percentChar
  split
  · rename_i hkeep
    apply percentDecodeBytes_cons
    rintro rfl
    rw [hmark] at hkeep
    cases hkeep
  · exact percentDecodeBytes_flatMap_percentByte (String.utf8EncodeChar c) rest

/-- The bytes of an encoded text are those of the text. -/
theorem percentDecodeBytes_percentEncode {keep : Char → Bool} (hmark : keep '%' = false)
    (cs : List Char) :
    percentDecodeBytes (percentEncode keep cs) = cs.flatMap String.utf8EncodeChar := by
  induction cs with
  | nil => rfl
  | cons c cs ih =>
      have hchar := percentDecodeBytes_percentChar hmark c (percentEncode keep cs)
      rw [ih] at hchar
      exact hchar

/-- **An encoded text is decoded to the text.** -/
theorem percentDecode?_percentEncode {keep : Char → Bool} (hmark : keep '%' = false)
    (cs : List Char) : percentDecode? (percentEncode keep cs) = some (String.ofList cs) := by
  have hbytes : (⟨(percentDecodeBytes (percentEncode keep cs)).toArray⟩ : ByteArray) =
      (String.ofList cs).toByteArray := by
    rw [percentDecodeBytes_percentEncode hmark, String.toByteArray_ofList, List.utf8Encode]
    apply ByteArray.ext
    apply Array.ext'
    exact List.toList_data_toByteArray.symm
  have hvalid : (String.ofList cs).toByteArray.IsValidUTF8 := (String.ofList cs).isValidUTF8
  rw [percentDecode?, hbytes, String.fromUTF8?, dif_pos hvalid]
  rfl

/-- Different texts are encoded differently. -/
theorem percentEncode_injective {keep : Char → Bool} (hmark : keep '%' = false) :
    Function.Injective (percentEncode keep) := by
  intro cs ds heq
  have hcs := percentDecode?_percentEncode hmark cs
  rw [heq, percentDecode?_percentEncode hmark ds, Option.some.injEq] at hcs
  exact (String.ofList_injective hcs).symm

/-- A text of characters that may stand for themselves is written as it is. -/
theorem percentEncode_eq_self {keep : Char → Bool} {cs : List Char}
    (h : ∀ c ∈ cs, keep c = true) : percentEncode keep cs = cs := by
  induction cs with
  | nil => rfl
  | cons c cs ih =>
      have hc : percentChar keep c = [c] := if_pos (h c List.mem_cons_self)
      have hcs := ih (fun d hd => h d (List.mem_cons_of_mem c hd))
      rw [percentEncode] at hcs ⊢
      rw [List.flatMap_cons, hc, hcs]
      rfl

/-! ### What an encoded text consists of -/

theorem mem_percentByte {b : UInt8} {c : Char} (h : c ∈ percentByte b) :
    c = '%' ∨ ∃ n < 16, c = capitalHexDigit n := by
  have hb : b.toNat < 256 := b.toNat_lt
  simp only [percentByte, List.mem_cons, List.not_mem_nil, or_false] at h
  rcases h with rfl | rfl | rfl
  · exact .inl rfl
  · exact .inr ⟨b.toNat / 16, by omega, rfl⟩
  · exact .inr ⟨b.toNat % 16, by omega, rfl⟩

theorem mem_percentEncode {keep : Char → Bool} {cs : List Char} {c : Char}
    (h : c ∈ percentEncode keep cs) :
    (keep c = true ∧ c ∈ cs) ∨ c = '%' ∨ ∃ n < 16, c = capitalHexDigit n := by
  obtain ⟨d, hd, hc⟩ := List.mem_flatMap.mp h
  unfold percentChar at hc
  split at hc
  · rename_i hkeep
    rw [List.mem_singleton] at hc
    rw [hc]
    exact .inl ⟨hkeep, hd⟩
  · obtain ⟨b, -, hin⟩ := List.mem_flatMap.mp hc
    exact .inr (mem_percentByte hin)

/-- A character that may not stand for itself is in no encoded text, unless it is used to encode. -/
theorem not_mem_percentEncode {keep : Char → Bool} {c : Char} (hkeep : keep c = false)
    (hmark : c ≠ '%') (hdigit : ∀ n : Fin 16, c ≠ capitalHexDigit n) (cs : List Char) :
    c ∉ percentEncode keep cs := by
  intro hin
  rcases mem_percentEncode hin with ⟨hkept, -⟩ | hpercent | ⟨n, hn, hhex⟩
  · rw [hkeep] at hkept
    cases hkept
  · exact hmark hpercent
  · exact hdigit ⟨n, hn⟩ hhex

end LanguageBlueprint.Text
