/-
  LanguageBlueprint/Proofs/Review/Removal.lean
  ============================================
  **Removing what is reported as repeated.**  Keywords and operators are parts
  with a key.  The review compares keys after the blanks at their ends are taken
  off, and tells a repeated key in this trimmed form; a removal by key takes a key
  as it is written.  So removing the key that was told takes away the parts that
  are written just so, and leaves those that are padded with blanks: the key is
  told again exactly when two of these are left.

    * parts with a key                  — `Keyed`, `keys_removal`;
    * when a key is told                — `repetition_mem_review`;
    * padded keys                       — `padded`, `count_trim_removed`;
    * what is told after the removal    — `repetition_after_removal`.
-/
import LanguageBlueprint.Blueprint.Edit
import LanguageBlueprint.Proofs.Review.Report

namespace LanguageBlueprint

open Text Review

/-- The kinds of parts that are told apart, and removed, by a key. -/
inductive Keyed where
  | keyword | operator
deriving DecidableEq, Repr

namespace Keyed

/-- The keys of all parts of the kind, as they are written. -/
def keys (b : Blueprint) : Keyed → List String
  | keyword => b.keywords.map (·.word)
  | operator => b.operators.map (·.symbol)

/-- The edit that removes the parts with a key. -/
def removal (key : String) : Keyed → Edit
  | keyword => .removeKeyword key
  | operator => .removeOperator key

/-- The finding that several parts have one key. -/
def repetition (key : String) : Keyed → Violation
  | keyword => .duplicateKeyword key
  | operator => .duplicateOperator key

variable {b : Blueprint} {kind : Keyed} {key other : String}

theorem keys_removal : kind.keys (b.apply (kind.removal key)) =
    (kind.keys b).filter (fun text => text != key) := by
  cases kind with
  | keyword => simp only [keys, removal, Blueprint.apply, List.filter_map, Function.comp_def]
  | operator => simp only [keys, removal, Blueprint.apply, List.filter_map, Function.comp_def]

/-! ### When a key is told -/

theorem repetition_mem_coded : kind.repetition key ∈ b.review ↔
    kind.repetition key ∈ coded (kind.repetition key).code b.review := by
  rw [coded, List.mem_filter, and_iff_left (decide_eq_true rfl)]

/-- A key is told when it is not blank and at least two parts have it, apart from blanks at its
ends. -/
theorem repetition_mem_review : kind.repetition key ∈ b.review ↔
    key ≠ "" ∧ 2 ≤ ((kind.keys b).map trim).count key := by
  have hoccurs : key ∈ repeated (namesIn (kind.keys b)) ↔
      key ≠ "" ∧ 2 ≤ ((kind.keys b).map trim).count key := by
    rw [(firstOccurrences_repeated_namesIn (kind.keys b)).mem]
    refine and_iff_right_of_imp (fun h => ?_)
    exact List.count_pos_iff.mp (Nat.lt_of_lt_of_le Nat.zero_lt_two h.2)
  rw [repetition_mem_coded, ← hoccurs]
  cases kind with
  | keyword =>
      have hcoded : coded (repetition key keyword).code b.review =
          (repeated (namesIn (keyword.keys b))).map .duplicateKeyword := coded_duplicateKeyword b
      rw [hcoded]
      exact List.mem_map_of_injective (fun _ _ h => Violation.duplicateKeyword.inj h)
  | operator =>
      have hcoded : coded (repetition key operator).code b.review =
          (repeated (namesIn (operator.keys b))).map .duplicateOperator := coded_duplicateOperator b
      rw [hcoded]
      exact List.mem_map_of_injective (fun _ _ h => Violation.duplicateOperator.inj h)

/-! ### Padded keys -/

/-- The texts that are the key only after blanks at their ends are taken off. -/
def padded (key : String) (texts : List String) : List String :=
  texts.filter (fun text => text ≠ key ∧ trim text = key)

/-- Of the texts with a key, the padded ones are left when the key is removed. -/
theorem count_trim_removed (key : String) (texts : List String) :
    ((texts.filter (fun text => text != key)).map trim).count key = (padded key texts).length := by
  rw [List.count_eq_countP, List.countP_map, List.countP_filter, List.countP_eq_length_filter,
    padded]
  apply congrArg List.length
  apply List.filter_congr
  intro text _
  rw [Bool.eq_iff_iff]
  simp [and_comm]

/-- A key that is trimmed does not count among the texts with another key. -/
theorem count_trim_other (hkey : trim key = key) (hother : other ≠ key) (texts : List String) :
    ((texts.filter (fun text => text != key)).map trim).count other =
      (texts.map trim).count other := by
  rw [List.count_eq_countP, List.count_eq_countP, List.countP_map, List.countP_map,
    List.countP_filter]
  apply List.countP_congr
  intro text _
  by_cases hsame : text = key
  · have hdiffer : key ≠ other := hother.symm
    simp [hsame, hkey, hdiffer]
  · simp [hsame]

/-- **What is told after a repeated key was removed.**  The key is told again exactly when at least
two of its parts are padded with blanks; it is not when all of them are written like the key that
was told.  Of other keys the same is told as before. -/
theorem repetition_after_removal (h : kind.repetition key ∈ b.review) :
    (kind.repetition key ∈ (b.apply (kind.removal key)).review ↔
      2 ≤ (padded key (kind.keys b)).length) ∧
    ((∀ text ∈ kind.keys b, trim text = key → text = key) →
      kind.repetition key ∉ (b.apply (kind.removal key)).review) ∧
    ∀ other, other ≠ key → (kind.repetition other ∈ (b.apply (kind.removal key)).review ↔
      kind.repetition other ∈ b.review) := by
  obtain ⟨hblank, htwice⟩ := repetition_mem_review.mp h
  have hagain : kind.repetition key ∈ (b.apply (kind.removal key)).review ↔
      2 ≤ (padded key (kind.keys b)).length := by
    rw [repetition_mem_review, keys_removal, count_trim_removed]
    exact and_iff_right hblank
  refine ⟨hagain, ?_, ?_⟩
  · intro hplain
    have hnone : padded key (kind.keys b) = [] := by
      apply List.filter_eq_nil_iff.mpr
      intro text htext hpadded
      obtain ⟨hdiffers, htrim⟩ := of_decide_eq_true hpadded
      exact hdiffers (hplain text htext htrim)
    rw [hagain, hnone]
    decide
  · intro other hother
    -- the key that was told is one of the trimmed texts
    have hkey : trim key = key := by
      have hmem : key ∈ (kind.keys b).map trim :=
        List.count_pos_iff.mp (Nat.lt_of_lt_of_le Nat.zero_lt_two htwice)
      obtain ⟨text, -, rfl⟩ := List.mem_map.mp hmem
      exact trim_trim text
    rw [repetition_mem_review, repetition_mem_review, keys_removal, count_trim_other hkey hother]

/-- Keywords of which one is written twice and once with a blank behind it. -/
def loops : Blueprint where
  name := "Loops"
  keywords := [{ word := "while" }, { word := "do" }, { word := "while " }, { word := "while" }]

theorem repetition_after_removal_loops :
    .duplicateKeyword "while" ∈ loops.review ∧
    .duplicateKeyword "while" ∉ (loops.apply (.removeKeyword "while")).review := by
  have htold : keyword.repetition "while" ∈ loops.review := by decide
  refine ⟨htold, ?_⟩
  change keyword.repetition "while" ∉ (loops.apply (keyword.removal "while")).review
  rw [(repetition_after_removal htold).1]
  decide

/-- A keyword that is written with a blank before it and with a blank behind it is told without
them, and is told again when what was told is removed. -/
theorem padded_keyword_stays_repeated :
    let b : Blueprint := { name := "Pad", keywords := [{ word := "if " }, { word := " if" }] }
    .duplicateKeyword "if" ∈ b.review ∧
      .duplicateKeyword "if" ∈ (b.apply (.removeKeyword "if")).review := by
  decide

end Keyed

end LanguageBlueprint
