/-
  LanguageBlueprint/Proofs/Blueprint/Precedence.lean
  ==================================================
  **Which integers become the precedence of an operator.**  An integer may be
  given as a literal or in a text, wherever the operator stands and however it is
  written.  In a text it is kept exactly if it has 64 bits, and counts as absent
  otherwise.  A literal is read by way of a double where it has not 64 bits: so
  the 1024 integers below the least one are taken for it, and those too large for
  a double cannot be read at all.  An operator whose precedence is absent is
  reported, and its language is not saved.

    * what is read of an operator        — `Operator.readAs_of_given`;
    * integers of 64 bits                — `exactInt64_eq_some`;
    * literals and texts                 — `precedenceOf_literal`, `precedenceOf_text`;
    * absent precedences                 — `reported_of_absent`, `refused_of_absent`;
    * the whole                          — `integer_precedence_read`.
-/
import LanguageBlueprint.Proofs.Blueprint.Rearranging
import LanguageBlueprint.Proofs.Json.Literal
import LanguageBlueprint.Studio

namespace LanguageBlueprint

open Decode Number

/-! ### Reading an operator -/

namespace Operator

/-- Wherever the value stands, and in every text of it, the operator is read, or it is refused. -/
structure ReadAs (json : Json) (operator? : Option Operator) : Prop where
  nested : ∀ depth supply, outcome (schema.codec.decode (depth + 1) json) supply =
    operator?.map (·, supply)
  text : ∀ text, Json.IsTextOf text json → ∀ supply,
    outcome (schema.codec.ofText text) supply = operator?.map (·, supply)

/-- The value is an operator whose precedence is given as `given`, and that is otherwise read as
`operator`; it may be written in any way, as an object or as a list. -/
def GivenAs (operator : Operator) (given json : Json) : Prop :=
  ∃ members : List (Option String × Json),
    (∀ member ∈ members, member.1 ≠ some "precedence") ∧
    (∀ depth supply, outcome (schema.codec.decode (depth + 1) (.object members true)) supply =
      some (operator, supply)) ∧
    Relation.EqvGen (schema.Rearranged [])
      (.object (members ++ [(some "precedence", given)]) true) json

theorem readAs_of_nested {json : Json} {operator? : Option Operator}
    (h : ∀ depth supply, outcome (schema.codec.decode (depth + 1) json) supply =
      operator?.map (·, supply)) : ReadAs json operator? := by
  refine ⟨h, fun text htext supply => ?_⟩
  rw [Codec.ofText_of_isTextOf _ htext]
  exact h 126 supply

/-- A precedence that stands behind the other members is read last. -/
theorem decodeMembers_precedence {members : List (Option String × Json)}
    (hmembers : ∀ member ∈ members, member.1 ≠ some "precedence") (given : Json) (depth : Nat) :
    schema.decodeMembers depth true [] schema.blank (members ++ [(some "precedence", given)]) =
      (do
        let operator ← schema.decodeMembers depth true [] schema.blank members
        let precedence ← precedenceCodec.decode depth given
        return { operator with precedence := precedence }) := by
  have hfield : Field.of "precedence" precedenceCodec (·.precedence)
      (fun x r => { r with precedence := x }) .blank ∈ schema.fields :=
    List.mem_of_getElem? (i := 1) rfl
  have hblank : ∀ field ∈ schema.fields, field.absence = .blank := by simp [schema]
  have hlast := @Schema.decodeMembers_last Operator schema depth quiet.names hblank _ hfield given
    members [] (by simp) hmembers schema.blank
  simp only [Field.of, bind_map_left] at hlast
  exact hlast

/-- **What is given as the precedence is taken for it**, if it can be kept at all. -/
theorem readAs_of_given {operator : Operator} {given json : Json} {kept : Bool}
    (h : GivenAs operator given json) (hkept : ∀ depth, given.isKeepable depth = kept) :
    ReadAs json
      (if kept then some { operator with precedence := precedenceOf given } else none) := by
  obtain ⟨members, hmembers, hrest, hwritten⟩ := h
  apply readAs_of_nested
  intro depth supply
  have hread : outcome (schema.decodeMembers depth true [] schema.blank members) supply =
      some (operator, supply) := hrest depth supply
  calc outcome (schema.codec.decode (depth + 1) json) supply
      = outcome (schema.codec.decode (depth + 1)
          (.object (members ++ [(some "precedence", given)]) true)) supply :=
        (Schema.decode_alike_of_changes quiet.orderly .nil hwritten (depth + 1) supply).symm
    _ = outcome (schema.decodeMembers depth true [] schema.blank
          (members ++ [(some "precedence", given)])) supply := rfl
    _ = _ := by
        rw [decodeMembers_precedence hmembers, outcome_bind, hread, Option.bind_some,
          precedenceCodec]
        cases kept with
        | true => simp [hkept]
        | false =>
            simp only [hkept, Bool.false_eq_true, if_false]
            rfl

end Operator

/-! ### Integers of 64 bits -/

/-- The integer of 64 bits that `k` is, if it is one. -/
def exactInt64 (k : Int) : Option Int64 :=
  if -2 ^ 63 ≤ k ∧ k < 2 ^ 63 then some (Int64.ofInt k) else none

theorem exactInt64_eq_some {k : Int} {n : Int64} : exactInt64 k = some n ↔ n.toInt = k := by
  rw [exactInt64]
  constructor
  · intro h
    split at h
    · rename_i hk
      cases h
      exact Int64.toInt_ofInt_of_le hk.1 hk.2
    · cases h
  · rintro rfl
    rw [if_pos ⟨Int64.le_toInt n, Int64.toInt_lt n⟩, Int64.ofInt_toInt]

theorem exactInt64_eq_filter (k : Int) :
    exactInt64 k = ((some k).filter fitsInt64).map Int64.ofInt := by
  have hmin : Int64.minValue.toInt = -2 ^ 63 := by decide
  have hmax : Int64.maxValue.toInt = 2 ^ 63 - 1 := by decide
  have hfits : fitsInt64 k = decide (-2 ^ 63 ≤ k ∧ k < 2 ^ 63) := by
    rw [fitsInt64, hmin, hmax, ← Bool.decide_and, decide_eq_decide]
    omega
  rw [exactInt64, Option.filter_some, hfits]
  by_cases hk : -2 ^ 63 ≤ k ∧ k < 2 ^ 63
  · rw [if_pos hk, if_pos (decide_eq_true hk), Option.map_some]
  · rw [if_neg hk, if_neg (by simpa using hk), Option.map_none]

/-! ### Literals and texts -/

/-- The precedence that a literal of the integer gives: the 1024 integers below the least one of 64
bits are taken for it. -/
def literalInt64 (k : Int) : Option Int64 :=
  if -2 ^ 63 - 1024 ≤ k ∧ k < -2 ^ 63 then some Int64.minValue else exactInt64 k

section Literals

variable {numeral : Numeral} {k : Int}

theorem precedenceOf_integer {n : Int} (h : numeral.value? = some (.integer n)) :
    precedenceOf (.number numeral) = exactInt64 n := by
  rw [precedenceOf, h, exactInt64_eq_filter]

theorem precedenceOf_double {d : Binary64} (h : numeral.value? = some (.double d)) :
    precedenceOf (.number numeral) = d.toInt?.bind exactInt64 := by
  rw [precedenceOf, h]
  cases hd : d.toInt? with
  | none => simp [hd]
  | some n => simp [hd, exactInt64_eq_filter]

/-- A double beyond the integers of 64 bits is none of them. -/
theorem exactInt64_of_beyond {d : Magnitude} (h : (2 : ℚ) ^ 63 < d.value) (negative : Bool) :
    (Binary64.finite negative d).toInt?.bind exactInt64 = none := by
  rw [Binary64.toInt?]
  cases hd : d.toNat? with
  | none => rfl
  | some n =>
      have hn : 2 ^ 63 < n := by
        rw [Magnitude.value_of_toNat? hd] at h
        apply @Nat.cast_lt ℚ _ _ _ _ |>.mp
        rwa [Nat.cast_pow, Nat.cast_ofNat]
      show exactInt64 (if negative then -(n : Int) else n) = none
      rw [exactInt64, if_neg]
      split
      · omega
      · omega

/-- **What an integer literal gives**, if it has a value at all. -/
theorem precedenceOf_literal (h : numeral.IsLiteral k) (hvalue : numeral.value?.isSome = true) :
    precedenceOf (.number numeral) = literalInt64 k := by
  rw [literalInt64]
  by_cases hnear : -2 ^ 63 - 1024 ≤ k ∧ k < -2 ^ 63
  · rw [if_pos hnear, precedenceOf_double (Numeral.value?_near h hnear.1 hnear.2)]
    decide +kernel
  rw [if_neg hnear]
  by_cases hsmall : -2 ^ 63 ≤ k ∧ k < 2 ^ 64
  · rcases Numeral.value?_literal h hsmall.1 hsmall.2 with hinteger | ⟨rfl, hzero⟩
    · exact precedenceOf_integer hinteger
    · rw [precedenceOf_double hzero]
      decide +kernel
  · rcases Numeral.value?_far h (by omega) with hnone | ⟨d, hbeyond, hdouble⟩
    · rw [hnone] at hvalue
      cases hvalue
    · rw [precedenceOf_double hdouble, exactInt64_of_beyond hbeyond, exactInt64, if_neg (by omega)]

/-- **A text that writes an integer gives it exactly**, or nothing. -/
theorem precedenceOf_text {s : String} {front cs back : List Char}
    (hs : s.toList = front ++ cs ++ back) (hfront : ∀ c ∈ front, Text.isBlankChar c = true)
    (hcs : WritesInteger k cs) (hback : ∀ c ∈ back, Text.isBlankChar c = true) :
    precedenceOf (.text s) = exactInt64 k := by
  rw [precedenceOf, hs, integer?_trimChars hcs hfront hback, exactInt64_eq_filter]

end Literals

/-! ### Absent precedences -/

theorem reported_of_absent {operator : Operator} (habsent : operator.precedence = none)
    {b : Blueprint} (hoperator : operator ∈ b.operators) :
    .invalidPrecedence operator.symbol ∈ b.review := by
  have hfound : .invalidPrecedence operator.symbol ∈ Review.checkPrecedences b := by
    apply List.mem_map_of_mem
    rw [List.mem_filter, habsent]
    exact ⟨hoperator, rfl⟩
  simp only [Blueprint.review, List.mem_append]
  tauto

/-- **A blueprint with an absent precedence is not saved**, neither as a new one nor in place of
another. -/
theorem refused_of_absent {operator : Operator} (habsent : operator.precedence = none)
    {b : Blueprint} (hoperator : operator ∈ b.operators) (studio : Studio) :
    studio.serve (.save b) = (.error (.invalid b.blocking), studio) ∧
    ∀ name, studio.serve (.update name b) = (.error (.invalid b.blocking), studio) := by
  have hblocking : .invalidPrecedence operator.symbol ∈ b.blocking :=
    List.mem_filter.mpr ⟨reported_of_absent habsent hoperator, rfl⟩
  have hpermits : b.permitsSave = false :=
    List.isEmpty_eq_false_iff_exists_mem.mpr ⟨_, hblocking⟩
  constructor
  · simp [Studio.serve, Studio.save, hpermits]
  · intro name
    simp [Studio.serve, Studio.update, hpermits]

/-! ### The whole -/

namespace Operator

variable {operator : Operator} {k : Int} {json : Json}

/-- A literal has a double, and gives the precedence, or it is too large for one. -/
theorem readAs_literal {numeral : Numeral} (hliteral : numeral.IsLiteral k)
    (hgiven : operator.GivenAs (.number numeral) json) :
    ReadAs json (some { operator with precedence := literalInt64 k }) ∨
      (10 ^ 308 ≤ k.natAbs ∧ ReadAs json none) := by
  cases hvalue : numeral.value?.isSome with
  | true =>
      have hread := readAs_of_given hgiven (fun _ => hvalue)
      rw [if_pos rfl, precedenceOf_literal hliteral hvalue] at hread
      exact .inl hread
  | false =>
      refine .inr ⟨?_, readAs_of_given hgiven (fun _ => hvalue)⟩
      by_contra hless
      rw [Numeral.value?_isSome hliteral (not_le.mp hless)] at hvalue
      cases hvalue

theorem refused_literal {numeral : Numeral} (hliteral : numeral.IsLiteral k)
    (hlarge : 10 ^ 309 ≤ k.natAbs) (hgiven : operator.GivenAs (.number numeral) json) :
    ReadAs json none := by
  have hvalue : ∀ depth, (Json.number numeral).isKeepable depth = false := by
    intro depth
    rw [Json.isKeepable, Numeral.value?_eq_none hliteral hlarge]
    rfl
  exact readAs_of_given hgiven hvalue

theorem readAs_text {s : String} {front cs back : List Char} (hs : s.toList = front ++ cs ++ back)
    (hfront : ∀ c ∈ front, Text.isBlankChar c = true) (hcs : WritesInteger k cs)
    (hback : ∀ c ∈ back, Text.isBlankChar c = true) (hgiven : operator.GivenAs (.text s) json) :
    ReadAs json (some { operator with precedence := exactInt64 k }) := by
  have hread := readAs_of_given hgiven (fun _ => rfl)
  rw [if_pos rfl, precedenceOf_text hs hfront hcs hback] at hread
  exact hread

end Operator

/-- **Which integers become a precedence.**  An operator whose precedence is given as an integer
literal is read with the precedence that the literal gives, unless the literal is too large for a
double, which those below `10 ^ 308` are not and those from `10 ^ 309` on are.  One whose precedence
is given in a text, with or without a sign and blanks around it, is read with exactly that integer,
if it has 64 bits, and without a precedence otherwise.  An operator without one is reported, and its
language is not saved. -/
theorem integer_precedence_read (operator : Operator) (k : Int) :
    (∀ numeral json, Numeral.IsLiteral numeral k → operator.GivenAs (.number numeral) json →
      (Operator.ReadAs json (some { operator with precedence := literalInt64 k }) ∨
        (10 ^ 308 ≤ k.natAbs ∧ Operator.ReadAs json none)) ∧
      (10 ^ 309 ≤ k.natAbs → Operator.ReadAs json none)) ∧
    (∀ s front cs back json, s.toList = front ++ cs ++ back →
      (∀ c ∈ front, Text.isBlankChar c = true) → WritesInteger k cs →
      (∀ c ∈ back, Text.isBlankChar c = true) → operator.GivenAs (.text s) json →
      Operator.ReadAs json (some { operator with precedence := exactInt64 k })) ∧
    (operator.precedence = none → ∀ b : Blueprint, operator ∈ b.operators →
      .invalidPrecedence operator.symbol ∈ b.review ∧
      ∀ studio : Studio,
        studio.serve (.save b) = (.error (.invalid b.blocking), studio) ∧
        ∀ name, studio.serve (.update name b) = (.error (.invalid b.blocking), studio)) := by
  refine ⟨?_, ?_, ?_⟩
  · intro numeral json hliteral hgiven
    exact ⟨Operator.readAs_literal hliteral hgiven,
      fun hlarge => Operator.refused_literal hliteral hlarge hgiven⟩
  · intro s front cs back json hs hfront hcs hback hgiven
    exact Operator.readAs_text hs hfront hcs hback hgiven
  · intro habsent b hoperator
    exact ⟨reported_of_absent habsent hoperator, refused_of_absent habsent hoperator⟩

namespace Operator

/-- An operator with a symbol and nothing else. -/
def plus : Operator := { symbol := "+" }

/-- The operator, with a precedence that is given for it. -/
def plusGiven (given : Json) : Json :=
  .object [(some "symbol", .text "+"), (some "precedence", given)] true

theorem givenAs_plus (given : Json) : plus.GivenAs given (plusGiven given) :=
  ⟨[(some "symbol", .text "+")], by simp, fun _ _ => rfl, .refl _⟩

end Operator

/-- A literal of 64 bits and one that is too large for a double, a text with a sign and blanks, and
a blueprint without a precedence. -/
theorem integer_precedence_read_plus :
    Operator.ReadAs (Operator.plusGiven (.number (.ofInt 7)))
      (some { Operator.plus with precedence := some 7 }) ∧
    Operator.ReadAs (Operator.plusGiven (.number (.ofInt (10 ^ 309)))) none ∧
    Operator.ReadAs (Operator.plusGiven (.text " +7 "))
      (some { Operator.plus with precedence := some 7 }) ∧
    .invalidPrecedence "+" ∈ ({ operators := [Operator.plus] } : Blueprint).review := by
  have hseven := integer_precedence_read Operator.plus 7
  refine ⟨?_, ?_, ?_, ?_⟩
  · obtain hread | ⟨hlarge, -⟩ :=
      (hseven.1 _ _ (Numeral.isLiteral_ofInt 7) (Operator.givenAs_plus _)).1
    · exact hread
    · exact absurd hlarge (by decide +kernel)
  · exact ((integer_precedence_read Operator.plus (10 ^ 309)).1 _ _
      (Numeral.isLiteral_ofInt _) (Operator.givenAs_plus _)).2 (by decide +kernel)
  · have hblank : ∀ c ∈ [' '], Text.isBlankChar c = true := List.forall_mem_singleton.mpr rfl
    have hdigits : IsDigits ['7'] := ⟨by simp, List.forall_mem_singleton.mpr rfl⟩
    exact hseven.2.1 " +7 " [' '] ['+', '7'] [' '] _ rfl hblank (.plus hdigits) hblank
      (Operator.givenAs_plus _)
  · exact (hseven.2.2 rfl _ (List.mem_singleton_self _)).1

/-- An integer that has not 64 bits, as a literal and in a text: the literal gives the least integer
of 64 bits, so that its blueprint is saved, and the text gives nothing. -/
theorem literal_below_least_kept :
    exactInt64 (-9223372036854775809) = none ∧
    outcome (Operator.schema.codec.ofText
      "\x7b\"symbol\":\"+\",\"precedence\":-9223372036854775809\x7d") 0 =
        some ({ symbol := "+", precedence := some Int64.minValue }, 0) ∧
    outcome (Operator.schema.codec.ofText
      "\x7b\"symbol\":\"+\",\"precedence\":\"-9223372036854775809\"\x7d") 0 =
        some ({ symbol := "+", precedence := none }, 0) ∧
    Blueprint.permitsSave
      { name := "Toy",
        operators := [{ symbol := "+", precedence := some Int64.minValue }] } = true := by
  decide +kernel

end LanguageBlueprint
