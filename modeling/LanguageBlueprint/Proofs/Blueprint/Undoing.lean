/-
  LanguageBlueprint/Proofs/Blueprint/Undoing.lean
  ===============================================
  **Taking edits back.**  For every edit there is one that takes it back, under a
  condition that is stated exactly.  A part that was appended stands at the former
  length of its collection, and what a setter has overwritten can be set again.
  Removal by key removes every part with the key, also those that were there
  before.  Adding a data type undoes its removal only if it was there to be
  removed.  A grammar rule that was replaced keeps its handle and its place, so the
  old content can be put back in the same way.

    * parts appended and removed by place      — `append_removeAt`;
    * parts appended and removed by key        — `concat_removed`;
    * data types                               — `insert_erase_eq_iff`, `erase_insert_eq_iff`;
    * grammar rules replaced                   — `replaceFirst_replaceFirst`;
    * all edits                                — `edits_undone`.
-/
import LanguageBlueprint.Blueprint.Edit
import Mathlib.Data.List.Nodup

namespace LanguageBlueprint

/-- How many parts a collection has. -/
def Blueprint.size (b : Blueprint) : Collection → Nat
  | .grammarRules => b.grammarRules.length
  | .syntaxRules => b.syntaxRules.length
  | .semanticActions => b.semanticActions.length
  | .keywords => b.keywords.length
  | .operators => b.operators.length
  | .builtins => b.builtins.length

/-- The edit that sets what an edit sets to what it is in a blueprint. -/
def Edit.reset? (b : Blueprint) : Edit → Option Edit
  | .setName _ => some (.setName b.name)
  | .setVersion _ => some (.setVersion b.version)
  | .setDescription _ => some (.setDescription b.description)
  | .setExecution _ => some (.setExecution b.execution)
  | .setBackend _ => some (.setBackend b.backend)
  | .setFileExtension _ => some (.setFileExtension b.fileExtension)
  | .setAuthor _ => some (.setAuthor b.author)
  | .setComments _ => some (.setComments b.comments)
  | .setLineComment _ => some (.setLineComment b.comments.line)
  | .setBlockCommentStart _ => some (.setBlockCommentStart b.comments.blockStart)
  | .setBlockCommentEnd _ => some (.setBlockCommentEnd b.comments.blockEnd)
  | .setTypes _ => some (.setTypes b.types)
  | .addType _ => none
  | .removeType _ => none
  | .append _ => none
  | .removeAt _ _ => none
  | .removeGrammarRule _ => none
  | .replaceGrammarRule _ _ => none
  | .removeKeyword _ => none
  | .removeOperator _ => none

namespace Blueprint

/-- How the edits of a blueprint are taken back. -/
structure Undoes (b : Blueprint) : Prop where
  appended : ∀ part : Part,
    (b.apply (.append part)).apply (.removeAt part.collection (b.size part.collection)) = b
  keyword : ∀ keyword : Keyword,
    (b.apply (.append (.keyword keyword))).apply (.removeKeyword keyword.word) =
      { b with keywords := b.keywords.filter (fun old => old.word ≠ keyword.word) } ∧
    ((∀ old ∈ b.keywords, old.word ≠ keyword.word) →
      (b.apply (.append (.keyword keyword))).apply (.removeKeyword keyword.word) = b)
  operator : ∀ operator : Operator,
    (b.apply (.append (.operator operator))).apply (.removeOperator operator.symbol) =
      { b with operators := b.operators.filter (fun old => old.symbol ≠ operator.symbol) } ∧
    ((∀ old ∈ b.operators, old.symbol ≠ operator.symbol) →
      (b.apply (.append (.operator operator))).apply (.removeOperator operator.symbol) = b)
  grammarRule : ∀ rule : GrammarRule,
    (b.apply (.append (.grammarRule rule))).apply (.removeGrammarRule rule.nodeId) =
      { b with grammarRules := b.grammarRules.filter (fun old => old.nodeId ≠ rule.nodeId) } ∧
    ((∀ old ∈ b.grammarRules, old.nodeId ≠ rule.nodeId) →
      (b.apply (.append (.grammarRule rule))).apply (.removeGrammarRule rule.nodeId) = b)
  typeAdded : ∀ type, (b.apply (.addType type)).apply (.removeType type) = b ↔
    b.types.contains type = false
  typeRemoved : ∀ type, (b.apply (.removeType type)).apply (.addType type) = b ↔
    b.types.contains type = true
  set : ∀ edit reset : Edit, edit.reset? b = some reset → (b.apply edit).apply reset = b
  replaced : (b.grammarRules.map (·.nodeId)).Nodup → ∀ old ∈ b.grammarRules, ∀ rule : GrammarRule,
    (b.apply (.replaceGrammarRule old.nodeId rule)).apply (.replaceGrammarRule old.nodeId old) = b

/-! ### Parts appended -/

section

variable {α β : Type} [DecidableEq β]

/-- What was appended stands at the former length. -/
theorem eraseIdx_concat (parts : List α) (part : α) :
    (parts ++ [part]).eraseIdx parts.length = parts := by
  rw [List.eraseIdx_append_of_length_le (Nat.le_refl _), Nat.sub_self, List.eraseIdx_cons_zero,
    List.append_nil]

/-- Removal by the key of the last part removes it and every other part with the key. -/
theorem filter_concat_key (key : α → β) (parts : List α) (part : α) :
    (parts ++ [part]).filter (fun old => key old != key part) =
      parts.filter (fun old => key old ≠ key part) := by
  rw [List.filter_append, List.filter_cons_of_neg (by simp), List.filter_nil, List.append_nil]
  apply List.filter_congr
  intro old _
  rw [bne, beq_eq_decide, decide_not]

/-- A part appended and removed by its key is gone, with every part of the same key. -/
theorem concat_removed (put : List α → Blueprint) (key : α → β) (parts : List α) (part : α) :
    put ((parts ++ [part]).filter (fun old => key old != key part)) =
      put (parts.filter (fun old => key old ≠ key part)) ∧
    ((∀ old ∈ parts, key old ≠ key part) →
      put ((parts ++ [part]).filter (fun old => key old != key part)) = put parts) := by
  rw [filter_concat_key]
  refine ⟨rfl, ?_⟩
  intro hfresh
  rw [List.filter_eq_self.mpr (fun old hold => decide_eq_true (hfresh old hold))]

end

theorem append_removeAt (b : Blueprint) (part : Part) :
    (b.append part).removeAt (b.size part.collection) part.collection = b := by
  cases part <;> simp [append, removeAt, size, Part.collection, eraseIdx_concat]

/-! ### Data types -/

theorem insert_erase_eq_iff (types : TypeSet) (type : DataType) :
    (types.insert type).erase type = types ↔ types.contains type = false := by
  constructor
  · intro h
    rw [← h]
    simp
  · intro h
    ext other
    by_cases hother : other = type
    · simp [hother, h]
    · simp [beq_false_of_ne hother, bne]

theorem erase_insert_eq_iff (types : TypeSet) (type : DataType) :
    (types.erase type).insert type = types ↔ types.contains type = true := by
  constructor
  · intro h
    rw [← h]
    simp
  · intro h
    ext other
    by_cases hother : other = type
    · simp [hother, h]
    · simp [beq_false_of_ne hother, bne]

/-! ### Grammar rules -/

/-- With all handles different, the first rule with a handle is the rule with the handle, and it
can be put back in its place. -/
theorem replaceFirst_replaceFirst {rules : List GrammarRule} {old : GrammarRule}
    (hdistinct : (rules.map (·.nodeId)).Nodup) (hold : old ∈ rules) (rule : GrammarRule) :
    replaceFirst old.nodeId old (replaceFirst old.nodeId rule rules) = rules := by
  induction rules with
  | nil => cases hold
  | cons first rules ih =>
      rcases List.nodup_cons.mp hdistinct with ⟨hfirst, hrest⟩
      by_cases hhandle : first.nodeId = old.nodeId
      · have hsame : old = first := by
          rcases List.mem_cons.mp hold with hsame | hin
          · exact hsame
          · have hagain : first.nodeId ∈ rules.map (·.nodeId) := by
              rw [hhandle]
              exact List.mem_map_of_mem hin
            exact absurd hagain hfirst
        subst hsame
        rw [replaceFirst, if_pos rfl, replaceFirst, if_pos rfl]
      · have hin : old ∈ rules := by
          rcases List.mem_cons.mp hold with rfl | hin
          · exact absurd rfl hhandle
          · exact hin
        rw [replaceFirst, if_neg hhandle, replaceFirst, if_neg hhandle, ih hrest hin]

/-! ### All edits -/

theorem apply_reset (b : Blueprint) {edit reset : Edit} (h : edit.reset? b = some reset) :
    (b.apply edit).apply reset = b := by
  cases edit <;> cases h <;> rfl

theorem with_types_eq_iff (b : Blueprint) (types : TypeSet) :
    { b with types := types } = b ↔ types = b.types := by
  constructor
  · exact congrArg Blueprint.types
  · rintro rfl
    rfl

/-- **Every edit of a blueprint can be taken back, each under its condition.** -/
theorem edits_undone (b : Blueprint) : b.Undoes where
  appended := append_removeAt b
  keyword := concat_removed (fun keywords => { b with keywords := keywords }) Keyword.word b.keywords
  operator :=
    concat_removed (fun operators => { b with operators := operators }) Operator.symbol b.operators
  grammarRule :=
    concat_removed (fun rules => { b with grammarRules := rules }) GrammarRule.nodeId b.grammarRules
  typeAdded := by
    intro type
    rw [← insert_erase_eq_iff]
    exact with_types_eq_iff b _
  typeRemoved := by
    intro type
    rw [← erase_insert_eq_iff]
    exact with_types_eq_iff b _
  set := fun _ _ h => apply_reset b h
  replaced := by
    intro hdistinct old hold rule
    simp only [apply, replaceFirst_replaceFirst hdistinct hold]

end Blueprint

end LanguageBlueprint
