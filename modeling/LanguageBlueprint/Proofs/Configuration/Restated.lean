/-
  LanguageBlueprint/Proofs/Configuration/Restated.lean
  ====================================================
  **What becomes of a text of the environment.**  A text that writes a truth value
  or a number counts as that value, and where a text is wanted again, the value is
  written in its usual form.  So the text is found again exactly if it is in that
  form already, or if it writes no value at all; and it writes none if it has a
  character that no number has, unless it is one of a few words.

    * the characters of a number    — `integer?_numberChars`, `double?_numberChars`;
    * integers are doubles, too     — `double?_isSome_of_integer?`;
    * what a text counts as         — `ofEnvironment_integer`, `ofEnvironment_text`, …;
    * texts that keep their form    — `KeepsForm`, `restated_eq_self_iff`;
    * texts that write no number    — `IsForeign`, `IsForeign.keepsForm`.
-/
import LanguageBlueprint.Configuration.Setting
import LanguageBlueprint.Proofs.Text.Digits
import Mathlib.Data.List.TakeWhile

namespace LanguageBlueprint

namespace Number

/-! ### The characters of a number -/

/-- The characters of which decimals consist. -/
def isNumberChar (c : Char) : Bool := c.isDigit || ['+', '-', '.', 'e', 'E'].contains c

/-- The characters behind the sign, if there is one. -/
def unsigned : List Char → List Char
  | '+' :: cs => cs
  | '-' :: cs => cs
  | cs => cs

/-- The names that doubles have. -/
def doubleNames : List String := ["inf", "infinity", "nan"]

variable {cs : List Char}

theorem isNumberChar_of_isDigit {c : Char} (h : c.isDigit = true) : isNumberChar c = true := by
  simp [isNumberChar, h]

/-- The letters of a number are those of a number in lower case, too. -/
theorem isNumberChar_toLower {c : Char} (h : isNumberChar c = true) :
    isNumberChar c.toLower = true := by
  rw [isNumberChar, Bool.or_eq_true] at h
  rcases h with hdigit | hmark
  · have hsmall : ¬ (c.val ≥ 'A'.val ∧ c.val ≤ 'Z'.val) := by
      rintro ⟨hlow, -⟩
      have hhigh : c.val ≤ '9'.val := by
        simp only [Char.isDigit, Bool.and_eq_true, decide_eq_true_eq] at hdigit
        exact hdigit.2
      exact absurd (UInt32.le_trans hlow hhigh) (by decide)
    have hsame : c.toLower = c := dif_neg hsmall
    rw [hsame]
    exact isNumberChar_of_isDigit hdigit
  · have hmarks : ['+', '-', '.', 'e', 'E'].all (isNumberChar ·.toLower) = true := by decide
    exact List.all_eq_true.mp hmarks c (List.contains_iff_mem.mp hmark)

theorem isDigits_of_natural? {n : Nat} (h : natural? cs = some n) : IsDigits cs := by
  unfold natural? at h
  split at h
  · cases h
  · rename_i hdigits
    simp only [Bool.or_eq_true, Bool.not_eq_true', not_or, Bool.not_eq_true, Bool.not_eq_false,
      List.isEmpty_eq_false_iff] at hdigits
    exact ⟨hdigits.1, List.all_eq_true.mp hdigits.2⟩

theorem unsigned_of_unsigned (hplus : ∀ rest, cs = '+' :: rest → False)
    (hminus : ∀ rest, cs = '-' :: rest → False) : unsigned cs = cs := by
  rw [unsigned.eq_def]
  split
  · exact absurd rfl (hplus _)
  · exact absurd rfl (hminus _)
  · rfl

/-- An integer is digits behind its sign. -/
theorem isDigits_of_integer? {n : Int} (h : integer? cs = some n) : IsDigits (unsigned cs) := by
  rw [integer?.eq_def] at h
  split at h
  · obtain ⟨m, hm, -⟩ := Option.map_eq_some_iff.mp h
    exact isDigits_of_natural? hm
  · simp only [Option.map_eq_some_iff, Option.bind_eq_bind, Option.bind_eq_some_iff] at h
    obtain ⟨-, ⟨m, hm, -⟩, -⟩ := h
    exact isDigits_of_natural? hm
  · rename_i hplus hminus
    obtain ⟨m, hm, -⟩ := Option.map_eq_some_iff.mp h
    rw [unsigned_of_unsigned hplus hminus]
    exact isDigits_of_natural? hm

/-- A text has the characters of a number if they are behind its sign. -/
theorem numberChars_of_unsigned (h : ∀ c ∈ unsigned cs, isNumberChar c = true) :
    ∀ c ∈ cs, isNumberChar c = true := by
  rw [unsigned.eq_def] at h
  split at h
  · exact List.forall_mem_cons.mpr ⟨rfl, h⟩
  · exact List.forall_mem_cons.mpr ⟨rfl, h⟩
  · exact h

theorem integer?_numberChars {n : Int} (h : integer? cs = some n) :
    ∀ c ∈ cs, isNumberChar c = true :=
  numberChars_of_unsigned
    (fun c hc => isNumberChar_of_isDigit ((isDigits_of_integer? h).digits c hc))

theorem exponentPart?_numberChars {e : Int} (h : exponentPart? cs = some e) :
    ∀ c ∈ cs, isNumberChar c = true := by
  cases cs with
  | nil => simp
  | cons mark cs =>
      rw [exponentPart?] at h
      split at h
      · rename_i hmark
        have hletter : isNumberChar mark = true := by
          simp only [Bool.or_eq_true, beq_iff_eq] at hmark
          rcases hmark with rfl | rfl <;> rfl
        exact List.forall_mem_cons.mpr ⟨hletter, integer?_numberChars h⟩
      · cases h

/-- A decimal consists of digits, a point, digits and an exponent. -/
theorem unsignedDecimal?_numberChars {parts : List Char × Int}
    (h : unsignedDecimal? cs = some parts) : ∀ c ∈ cs, isNumberChar c = true := by
  have hdigits : ∀ text : List Char, ∀ c ∈ text.takeWhile Char.isDigit, isNumberChar c = true :=
    fun _ c hc => isNumberChar_of_isDigit (List.mem_takeWhile_imp hc)
  have hrest : ∀ c ∈ cs.dropWhile Char.isDigit, isNumberChar c = true := by
    rw [unsignedDecimal?] at h
    split at h <;> rw [Option.ite_none_left_eq_some, Option.map_eq_some_iff] at h
    · rename_i more hpoint
      obtain ⟨-, e, he, -⟩ := h
      rw [hpoint, ← List.takeWhile_append_dropWhile (p := Char.isDigit) (l := more),
        List.forall_mem_cons, List.forall_mem_append]
      exact ⟨rfl, hdigits more, exponentPart?_numberChars he⟩
    · obtain ⟨-, e, he, -⟩ := h
      exact exponentPart?_numberChars he
  rw [← List.takeWhile_append_dropWhile (p := Char.isDigit) (l := cs), List.forall_mem_append]
  exact ⟨hdigits cs, hrest⟩

/-- A double is read behind its sign. -/
theorem double?_eq (cs : List Char) :
    double? cs = unsignedDouble? (cs.head? == some '-') (unsigned cs) := by
  rw [double?.eq_def]
  split
  · rfl
  · rfl
  · rename_i hplus hminus
    rw [unsigned_of_unsigned hplus hminus]
    have hpositive : (cs.head? == some '-') = false := by
      rw [beq_eq_false_iff_ne, Ne, List.head?_eq_some_iff]
      rintro ⟨rest, hrest⟩
      exact hminus rest hrest
    rw [hpositive]

/-- A text that writes a double is a name, or has only characters of numbers. -/
theorem double?_numberChars {d : Binary64} (h : double? cs = some d)
    (hname : String.ofList ((unsigned cs).map Char.toLower) ∉ doubleNames) :
    ∀ c ∈ cs, isNumberChar c = true := by
  simp only [doubleNames, List.mem_cons, List.not_mem_nil, or_false, not_or] at hname
  rw [double?_eq, unsignedDouble?] at h
  simp only [beq_iff_eq, hname, Bool.or_eq_true, or_self, if_false] at h
  obtain ⟨parts, hparts, -⟩ := Option.map_eq_some_iff.mp h
  exact numberChars_of_unsigned (unsignedDecimal?_numberChars hparts)

/-- A text that writes an integer writes a double, too. -/
theorem double?_isSome_of_integer? {n : Int} (h : integer? cs = some n) :
    (double? cs).isSome = true := by
  have hdigits := isDigits_of_integer? h
  have hwhole : (unsigned cs).takeWhile Char.isDigit = unsigned cs :=
    List.takeWhile_eq_self_iff.mpr hdigits.digits
  have hnothing : (unsigned cs).dropWhile Char.isDigit = [] :=
    List.dropWhile_eq_nil_iff.mpr hdigits.digits
  have hdecimal : (unsignedDecimal? (unsigned cs)).isSome = true := by
    simp [unsignedDecimal?, hwhole, hnothing, hdigits.nonempty, exponentPart?]
  rw [double?_eq, unsignedDouble?]
  split
  · rfl
  · split
    · rfl
    · simpa using hdecimal

/-- A text that writes no double writes no integer. -/
theorem integer?_eq_none (h : double? cs = none) : integer? cs = none := by
  cases hn : integer? cs with
  | none => rfl
  | some n =>
      have hsome := double?_isSome_of_integer? hn
      rw [h] at hsome
      cases hsome

end Number

namespace Setting

open Number

variable {s : String}

/-! ### What a text counts as -/

/-- The truth values have letters that no number has. -/
theorem lower_not_mem_of_double? (h : (double? s.toList).isSome = true) :
    lower s ∉ ["true", "false"] := by
  intro hword
  have hchars : s.toList.map Char.toLower ∈ ["true".toList, "false".toList] := by
    have hmem := List.mem_map_of_mem (f := String.toList) hword
    rwa [lower, String.toList_ofList] at hmem
  have hunsigned : unsigned s.toList = s.toList := by
    apply unsigned_of_unsigned <;>
    · intro rest hrest
      rw [hrest, List.map_cons] at hchars
      simp at hchars
  have hname : String.ofList ((unsigned s.toList).map Char.toLower) ∉ doubleNames := by
    rw [hunsigned]
    have hnames : ∀ word ∈ ["true", "false"], word ∉ doubleNames := by decide
    exact hnames _ hword
  obtain ⟨d, hd⟩ := Option.isSome_iff_exists.mp h
  have hnumber : (s.toList.map Char.toLower).all isNumberChar = true := by
    rw [List.all_eq_true, List.forall_mem_map]
    intro c hc
    exact isNumberChar_toLower (double?_numberChars hd hname c hc)
  have hletters : ∀ cs ∈ ["true".toList, "false".toList], cs.all isNumberChar = false := by
    decide
  rw [hletters _ hchars] at hnumber
  cases hnumber

theorem ofEnvironment_integer (hword : lower s ∉ ["true", "false"]) {n : Int}
    (h : (integer? s.toList).filter fitsInt64 = some n) : ofEnvironment s = .integer n := by
  simp only [List.mem_cons, List.not_mem_nil, or_false, not_or] at hword
  simp only [ofEnvironment, hword, if_false, h]

theorem ofEnvironment_double (hword : lower s ∉ ["true", "false"])
    (hbeyond : (integer? s.toList).filter fitsInt64 = none) {d : Binary64}
    (h : double? s.toList = some d) : ofEnvironment s = .double d := by
  simp only [List.mem_cons, List.not_mem_nil, or_false, not_or] at hword
  simp only [ofEnvironment, hword, if_false, hbeyond, h]

theorem ofEnvironment_text (hword : lower s ∉ ["true", "false"]) (h : double? s.toList = none) :
    ofEnvironment s = .text s := by
  have hinteger : (integer? s.toList).filter fitsInt64 = none := by
    rw [integer?_eq_none h, Option.filter_none]
  simp only [List.mem_cons, List.not_mem_nil, or_false, not_or] at hword
  simp only [ofEnvironment, hword, if_false, hinteger, h]

/-! ### Texts that keep their form -/

/-- The text that is found where this text of the environment is asked for. -/
def restated (s : String) : String := (ofEnvironment s).toText?.getD s

/-- A text of the environment is a text again, whatever it writes. -/
theorem toText?_ofEnvironment (s : String) : (ofEnvironment s).toText? = some (restated s) := by
  have hsome : (ofEnvironment s).toText?.isSome = true := by
    unfold ofEnvironment
    split
    · rfl
    · split
      · rfl
      · split
        · rfl
        · split <;> rfl
  obtain ⟨t, ht⟩ := Option.isSome_iff_exists.mp hsome
  rw [restated, ht, Option.getD_some]

/-- The text is the usual form of the value that it writes, or writes none. -/
inductive KeepsForm : String → Prop where
  | truth (b : Bool) : KeepsForm (if b then "true" else "false")
  | integer {n : Int} (h : fitsInt64 n = true) : KeepsForm (toString n)
  | double {d : Binary64} (hreads : double? d.plainText.toList = some d)
      (hbeyond : ∀ n, integer? d.plainText.toList = some n → fitsInt64 n = false) :
      KeepsForm d.plainText
  | other {s : String} (hword : lower s ∉ ["true", "false"]) (hreads : double? s.toList = none) :
      KeepsForm s

theorem KeepsForm.restated_eq (h : KeepsForm s) : restated s = s := by
  cases h with
  | truth b => cases b <;> decide
  | @integer n h =>
      have hreads : integer? (toString n).toList = some n :=
        integer?_of_writes (writesInteger_toString n)
      have hword := lower_not_mem_of_double? (double?_isSome_of_integer? hreads)
      have hfits : (integer? (toString n).toList).filter fitsInt64 = some n := by
        rw [hreads, Option.filter_some, if_pos h]
      rw [restated, ofEnvironment_integer hword hfits]
      rfl
  | @double d hreads hbeyond =>
      have hword := lower_not_mem_of_double? (Option.isSome_of_mem hreads)
      have hnone : (integer? d.plainText.toList).filter fitsInt64 = none := by
        rw [Option.filter_eq_none_iff]
        intro n hn
        rw [hbeyond n hn]
        exact Bool.false_ne_true
      rw [restated, ofEnvironment_double hword hnone hreads]
      rfl
  | other hword hreads =>
      rw [restated, ofEnvironment_text hword hreads]
      rfl

/-- **A text of the environment is found again exactly if it keeps its form.** -/
theorem restated_eq_self_iff : restated s = s ↔ KeepsForm s := by
  refine ⟨?_, KeepsForm.restated_eq⟩
  intro h
  by_cases hword : lower s ∈ ["true", "false"]
  · have htruth : ∃ b, ofEnvironment s = .bool b := by
      simp only [List.mem_cons, List.not_mem_nil, or_false] at hword
      rcases hword with htrue | hfalse
      · exact ⟨true, if_pos htrue⟩
      · exact ⟨false, by simp [ofEnvironment, hfalse]⟩
    obtain ⟨b, hb⟩ := htruth
    rw [restated, hb] at h
    exact h ▸ .truth b
  · cases hinteger : (integer? s.toList).filter fitsInt64 with
    | some n =>
        rw [restated, ofEnvironment_integer hword hinteger] at h
        exact h ▸ .integer (Option.filter_eq_some_iff.mp hinteger).2
    | none =>
        cases hreads : double? s.toList with
        | some d =>
            rw [restated, ofEnvironment_double hword hinteger hreads] at h
            have hform : d.plainText = s := h
            subst hform
            refine .double hreads ?_
            intro n hn
            rw [hn, Option.filter_some] at hinteger
            simpa using hinteger
        | none => exact .other hword hreads

/-! ### Texts that write no number -/

/-- The text has a character that no number has, and is none of the words that write a value. -/
structure IsForeign (s : String) : Prop where
  char : ∃ c ∈ s.toList, isNumberChar c = false
  word : lower s ∉ ["true", "false"]
  name : String.ofList ((unsigned s.toList).map Char.toLower) ∉ doubleNames

theorem IsForeign.keepsForm (h : IsForeign s) : KeepsForm s := by
  refine .other h.word ?_
  cases hd : double? s.toList with
  | none => rfl
  | some d =>
      obtain ⟨c, hc, hforeign⟩ := h.char
      rw [double?_numberChars hd h.name c hc] at hforeign
      cases hforeign

/-- The names of files and the addresses keep their form, and decimals with zeros at their end do
not. -/
example : restated "wizard.db" = "wizard.db" ∧ restated "0.0.0.0:8000" = "0.0.0.0:8000" ∧
    restated "1.50" = "1.5" ∧ restated "007" = "7" := by
  decide +kernel

end Setting

end LanguageBlueprint
