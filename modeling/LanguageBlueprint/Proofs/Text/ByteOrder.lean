/-
  LanguageBlueprint/Proofs/Text/ByteOrder.lean
  ============================================
  **The order of texts is the order of their bytes.**  Texts are compared character
  by character; a table compares the bytes of their UTF-8 form.  Both orders are
  the same, since of two different characters the smaller one has the smaller
  byte where their bytes first differ, and neither is the beginning of the other.

    * two characters               — `below_encodeChar`;
    * two texts                    — `lt_iff_bytes_lt`.
-/
import Mathlib.Data.List.Lex
import Mathlib.Data.String.Basic

namespace LanguageBlueprint.Text

/-- The bytes of the UTF-8 form of a text. -/
def bytes (text : String) : List ℕ := text.toUTF8.data.toList.map UInt8.toNat

/-- The bytes of the UTF-8 form of the character with a code: one to four digits, of which all but
the first have base 64. -/
def encodeCode (code : ℕ) : List ℕ :=
  if code ≤ 0x7F then [code]
  else if code ≤ 0x7FF then [0xC0 + code / 0x40, 0x80 + code % 0x40]
  else if code ≤ 0xFFFF then
    [0xE0 + code / 0x1000, 0x80 + code / 0x40 % 0x40, 0x80 + code % 0x40]
  else
    [0xF0 + code / 0x40000, 0x80 + code / 0x1000 % 0x40, 0x80 + code / 0x40 % 0x40,
      0x80 + code % 0x40]

theorem code_lt (c : Char) : c.toNat < 0x110000 := by
  rcases c.valid with hlow | ⟨-, hhigh⟩
  · exact Nat.lt_trans hlow (by decide)
  · exact hhigh

theorem map_utf8EncodeChar (c : Char) :
    (String.utf8EncodeChar c).map UInt8.toNat = encodeCode c.toNat := by
  have hcode := code_lt c
  have hval : c.val.toNat = c.toNat := rfl
  simp only [String.utf8EncodeChar, encodeCode, hval]
  split_ifs <;>
    simp only [List.map_cons, List.map_nil, UInt8.toNat_ofNat', List.cons.injEq, and_true] <;> omega

theorem bytes_eq_flatMap (text : String) :
    bytes text = text.toList.flatMap (fun c => encodeCode c.toNat) := by
  have hutf8 : text.toUTF8.data.toList = text.toList.flatMap String.utf8EncodeChar := by
    conv => lhs; rw [← String.ofList_toList (s := text)]
    rw [String.toUTF8_eq_toByteArray, String.toByteArray_ofList]
    exact List.toList_data_toByteArray
  rw [bytes, hutf8, List.map_flatMap]
  simp only [map_utf8EncodeChar]

/-- The lists differ at a place that both have, and the first is smaller there. -/
def Below : List ℕ → List ℕ → Prop
  | x :: xs, y :: ys => x < y ∨ x = y ∧ Below xs ys
  | _, _ => False

/-- What comes behind the difference does not matter. -/
theorem lt_of_below {xs ys : List ℕ} (h : Below xs ys) (us vs : List ℕ) : xs ++ us < ys ++ vs := by
  induction xs generalizing ys with
  | nil => cases h
  | cons x xs ih =>
      cases ys with
      | nil => cases h
      | cons y ys =>
          rw [List.cons_append, List.cons_append, List.cons_lt_cons_iff]
          rcases h with hlt | ⟨heq, hrest⟩
          · exact .inl hlt
          · exact .inr ⟨heq, ih hrest⟩

theorem below_encodeCode {code code' : ℕ} (hlt : code < code') (hcode : code' < 0x110000) :
    Below (encodeCode code) (encodeCode code') := by
  -- a longer form has a larger first byte; forms of one length are compared digit by digit
  unfold encodeCode
  split_ifs <;> simp only [Below] <;> omega

theorem bytes_lt_of_lt {s t : String} (h : s < t) : bytes s < bytes t := by
  rw [bytes_eq_flatMap, bytes_eq_flatMap]
  rw [String.lt_iff_toList_lt] at h
  -- up to the first place where the characters differ the bytes are the same
  generalize s.toList = cs at h
  generalize t.toList = ds at h
  induction cs generalizing ds with
  | nil =>
      cases ds with
      | nil => cases h
      | cons d ds =>
          have hd : ∃ byte bytes, encodeCode d.toNat = byte :: bytes := by
            unfold encodeCode
            split_ifs <;> exact ⟨_, _, rfl⟩
          obtain ⟨byte, bytes, hd⟩ := hd
          rw [List.flatMap_cons, hd]
          exact List.nil_lt_cons _ _
  | cons c cs ih =>
      cases ds with
      | nil => cases h
      | cons d ds =>
          rw [List.flatMap_cons, List.flatMap_cons]
          rcases List.cons_lt_cons_iff.mp h with hlt | ⟨rfl, hrest⟩
          · exact lt_of_below (below_encodeCode hlt (code_lt d)) _ _
          · exact List.append_left_lt (ih ds hrest)

/-- **One text comes before another exactly if its bytes do.** -/
theorem lt_iff_bytes_lt {s t : String} : s < t ↔ bytes s < bytes t := by
  constructor
  · exact bytes_lt_of_lt
  · intro hbytes
    rcases lt_trichotomy s t with hlt | rfl | hgt
    · exact hlt
    · exact absurd hbytes (lt_irrefl _)
    · exact absurd hbytes (lt_asymm (bytes_lt_of_lt hgt))

end LanguageBlueprint.Text
