/-
  LanguageBlueprint/Proofs/Review/Rule.lean
  =========================================
  **The rules of the review.**  Every finding is made under one of the nine rules,
  and the review is the findings of the rules one after the other.  So whatever
  concerns one rule alone can be looked at in that rule alone.

    * the review, rule by rule                 — `review_eq_flatMap`;
    * a finding tells its rule                 — `rule_of_mem_findings`;
    * the rules come in their order            — `review_ordered`;
    * findings of one rule within the review   — `filter_review`;
    * changes of the review, rule by rule      — `review_eq_filter`, `map_review_perm`.
-/
import LanguageBlueprint.Proofs.Review.Reference
import Mathlib.Data.List.Perm.Basic

namespace LanguageBlueprint

namespace Review

/-- The rules of the review, in the order in which they are checked. -/
inductive Rule where
  | name | keywords | operatorSymbols | precedences | grammarRules | syntaxRules
  | semanticActions | builtins | backend
deriving DecidableEq, Repr

namespace Rule

def all : List Rule :=
  [.name, .keywords, .operatorSymbols, .precedences, .grammarRules, .syntaxRules,
    .semanticActions, .builtins, .backend]

def number : Rule → Nat
  | .name => 1
  | .keywords => 2
  | .operatorSymbols => 3
  | .precedences => 4
  | .grammarRules => 5
  | .syntaxRules => 6
  | .semanticActions => 7
  | .builtins => 8
  | .backend => 9

/-- What a rule alone finds in a blueprint. -/
def findings (b : Blueprint) : Rule → List Violation
  | .name => checkName b
  | .keywords => checkKeywords b
  | .operatorSymbols => checkOperatorSymbols b
  | .precedences => checkPrecedences b
  | .grammarRules => checkGrammarRules b
  | .syntaxRules => checkSyntaxRules b
  | .semanticActions => checkSemanticActions b
  | .builtins => checkBuiltins b
  | .backend => checkBackend b

theorem all_ordered : all.Pairwise (fun rule next => rule.number < next.number) := by
  decide

end Rule

end Review

open Review

/-- The rule under which a finding is made. -/
def Violation.rule : Violation → Rule
  | .missingName => .name
  | .emptyKeyword _ => .keywords
  | .duplicateKeyword _ => .keywords
  | .emptyOperator _ => .operatorSymbols
  | .duplicateOperator _ => .operatorSymbols
  | .invalidPrecedence _ => .precedences
  | .incompleteGrammarRule _ => .grammarRules
  | .duplicateNodeId _ => .grammarRules
  | .incompleteSyntaxRule _ => .syntaxRules
  | .unresolvedToken _ => .syntaxRules
  | .incompleteSemanticAction _ => .semanticActions
  | .danglingActionReference _ => .semanticActions
  | .incompleteBuiltin _ => .builtins
  | .invalidParameterType _ _ _ => .builtins
  | .missingBackend => .backend

namespace Review

/-! ### Every finding tells its rule -/

section

variable {b : Blueprint} {finding : Violation}

theorem mem_passFrom {α : Type} (kind : Referring α) {known reported : List String} {index : Nat}
    {parts : List α} (h : finding ∈ kind.passFrom known reported index parts) :
    (∃ place, finding = kind.atPlace place) ∨ ∃ name, finding = kind.unknown name := by
  have hmem := (kind.passFrom_perm reported index).mem_iff.mp h
  rcases List.mem_append.mp hmem with hplace | hname
  · rcases List.mem_map.mp hplace with ⟨place, -, rfl⟩
    exact .inl ⟨place, rfl⟩
  · rcases List.mem_map.mp hname with ⟨name, -, rfl⟩
    exact .inr ⟨name, rfl⟩

theorem mem_checkBuiltins (h : finding ∈ checkBuiltins b) :
    (∃ index, finding = .incompleteBuiltin index) ∨
      ∃ function parameter type, finding = .invalidParameterType function parameter type := by
  rcases List.mem_flatMap.mp h with ⟨⟨builtin, index⟩, -, hfound⟩
  rcases List.mem_append.mp hfound with hincomplete | htype
  · rw [List.mem_ite_nil_right, List.mem_singleton] at hincomplete
    exact .inl ⟨index, hincomplete.2⟩
  · rcases List.mem_map.mp htype with ⟨parameter, -, rfl⟩
    exact .inr ⟨_, _, _, rfl⟩

theorem rule_of_mem_findings {rule : Rule} (h : finding ∈ rule.findings b) :
    finding.rule = rule := by
  cases rule with
  | name =>
      rcases List.mem_ite_nil_right.mp h with ⟨-, hfinding⟩
      rw [List.mem_singleton.mp hfinding]
      rfl
  | keywords =>
      rcases List.mem_append.mp h with hempty | hrepeated
      · rcases List.mem_map.mp hempty with ⟨index, -, rfl⟩
        rfl
      · rcases List.mem_map.mp hrepeated with ⟨word, -, rfl⟩
        rfl
  | operatorSymbols =>
      rcases List.mem_append.mp h with hempty | hrepeated
      · rcases List.mem_map.mp hempty with ⟨index, -, rfl⟩
        rfl
      · rcases List.mem_map.mp hrepeated with ⟨symbol, -, rfl⟩
        rfl
  | precedences =>
      rcases List.mem_map.mp h with ⟨operator, -, rfl⟩
      rfl
  | grammarRules =>
      rcases List.mem_append.mp h with hincomplete | hrepeated
      · rcases List.mem_map.mp hincomplete with ⟨rule, -, rfl⟩
        rfl
      · rcases List.mem_map.mp hrepeated with ⟨id, -, rfl⟩
        rfl
  | syntaxRules =>
      rw [Rule.findings, checkSyntaxRules_eq_pass] at h
      rcases mem_passFrom _ h with ⟨place, rfl⟩ | ⟨name, rfl⟩
      · rfl
      · rfl
  | semanticActions =>
      rw [Rule.findings, checkSemanticActions_eq_pass] at h
      rcases mem_passFrom _ h with ⟨place, rfl⟩ | ⟨name, rfl⟩
      · rfl
      · rfl
  | builtins =>
      rcases mem_checkBuiltins h with ⟨index, rfl⟩ | ⟨function, parameter, type, rfl⟩
      · rfl
      · rfl
  | backend =>
      rcases List.mem_ite_nil_right.mp h with ⟨-, hfinding⟩
      rw [List.mem_singleton.mp hfinding]
      rfl

end

/-! ### The review, rule by rule -/

theorem review_eq_flatMap (b : Blueprint) :
    b.review = Rule.all.flatMap (fun rule => rule.findings b) := by
  simp [Blueprint.review, Rule.all, Rule.findings]

theorem review_ordered (b : Blueprint) :
    b.review.Pairwise (fun finding next => finding.rule.number ≤ next.rule.number) := by
  rw [review_eq_flatMap, List.pairwise_flatMap]
  constructor
  · intro rule _
    apply List.pairwise_of_forall_mem_list
    intro finding hfinding next hnext
    have hsame : finding.rule = next.rule :=
      (rule_of_mem_findings hfinding).trans (rule_of_mem_findings hnext).symm
    exact Nat.le_of_eq (congrArg Rule.number hsame)
  · apply Rule.all_ordered.imp
    intro rule later hlt finding hfinding next hnext
    rw [rule_of_mem_findings hfinding, rule_of_mem_findings hnext]
    exact Nat.le_of_lt hlt

/-- A blueprint can be stored when no finding is blocking. -/
theorem permitsSave_iff_forall (b : Blueprint) :
    b.permitsSave = true ↔ ∀ finding ∈ b.review, finding.isBlocking = false := by
  rw [Blueprint.permitsSave, Blueprint.blocking, List.isEmpty_iff, List.filter_eq_nil_iff]
  simp only [Bool.not_eq_true]

/-- Findings that are all made under one rule are found in the whole review as in this rule. -/
theorem filter_review (b : Blueprint) {select : Violation → Bool} (rule : Rule)
    (hselect : ∀ finding, select finding = true → finding.rule = rule) :
    b.review.filter select = (rule.findings b).filter select := by
  have hother : ∀ other, other ≠ rule → (other.findings b).filter select = [] := by
    intro other hne
    apply List.filter_eq_nil_iff.mpr
    intro finding hfinding hin
    exact hne ((rule_of_mem_findings hfinding).symm.trans (hselect finding hin))
  rw [review_eq_flatMap, List.filter_flatMap]
  cases rule <;> simp [Rule.all, hother]

/-- A review is another one without a certain finding, if this is so under the rule of the finding
and nothing changes under the other rules. -/
theorem review_eq_filter {b other : Blueprint} {gone : Violation}
    (hgone : gone.rule.findings other =
      (gone.rule.findings b).filter (fun finding => finding ≠ gone))
    (hkept : ∀ rule, rule ≠ gone.rule → rule.findings other = rule.findings b) :
    other.review = b.review.filter (fun finding => finding ≠ gone) := by
  have hrule : ∀ rule : Rule, rule.findings other =
      (rule.findings b).filter (fun finding => finding ≠ gone) := by
    intro rule
    by_cases h : rule = gone.rule
    · rw [h]
      exact hgone
    · rw [hkept rule h]
      apply Eq.symm
      apply List.filter_eq_self.mpr
      intro finding hfinding
      apply decide_eq_true
      rintro rfl
      exact h (rule_of_mem_findings hfinding).symm
  rw [review_eq_flatMap, review_eq_flatMap, List.filter_flatMap]
  exact congrArg Rule.all.flatMap (funext hrule)

/-- Two reviews are the same but for order and a change of each finding if this is so rule by
rule. -/
theorem map_review_perm {b other : Blueprint} (change : Violation → Violation)
    (h : ∀ rule : Rule, ((rule.findings other).map change).Perm ((rule.findings b).map change)) :
    (other.review.map change).Perm (b.review.map change) := by
  rw [review_eq_flatMap, review_eq_flatMap, List.map_flatMap, List.map_flatMap]
  exact List.Perm.flatMap_left _ (fun rule _ => h rule)

end Review

end LanguageBlueprint
