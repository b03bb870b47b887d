/-
  LanguageBlueprint/Proofs/Review/Verdict.lean
  ============================================
  **What the review lets through.**  `Storable` and `Generable` say what is asked
  of a blueprint without looking at findings.  Each rule finds nothing exactly
  when its part of this holds; that a token or a rule name is reported only once
  hides no other finding, since as long as nothing was found nothing was
  reported.

    * one rule at a time              — `checkKeywords_eq_nil`, …;
    * which rules hold up a save      — `blocking_eq`;
    * both verdicts are exact         — `verdicts_exact`.
-/
import LanguageBlueprint.Review.Check
import Mathlib.Data.List.Nodup

namespace LanguageBlueprint

open Text

/-! ### What is asked of a blueprint -/

namespace Blueprint

/-- What a blueprint needs to be stored. -/
structure Storable (b : Blueprint) : Prop where
  name : trim b.name ≠ ""
  keywords : ∀ keyword ∈ b.keywords, trim keyword.word ≠ ""
  keywordsDistinct : (b.keywords.map (fun keyword => trim keyword.word)).Nodup
  operators : ∀ operator ∈ b.operators, trim operator.symbol ≠ ""
  operatorsDistinct : (b.operators.map (fun operator => trim operator.symbol)).Nodup
  precedences : ∀ operator ∈ b.operators, operator.precedence ≠ none
  grammarRules : ∀ rule ∈ b.grammarRules, trim rule.name ≠ "" ∧ trim rule.pattern ≠ ""
  handlesDistinct : (b.grammarRules.map (·.nodeId)).Nodup
  builtins : ∀ builtin ∈ b.builtins, trim builtin.name ≠ "" ∧ trim builtin.description ≠ ""
  parameterTypes : ∀ builtin ∈ b.builtins, ∀ parameter ∈ builtin.parameters,
    b.types.contains parameter.type = true
  backend : b.execution = .compiled → b.backend ≠ none

/-- What a language needs besides to be generated from it. -/
structure Generable (b : Blueprint) : Prop extends b.Storable where
  patterns : ∀ rule ∈ b.syntaxRules, trim rule.pattern ≠ ""
  tokens : ∀ rule ∈ b.syntaxRules, ∀ token ∈ rule.tokens, trim token ≠ "" →
    (∃ keyword ∈ b.keywords, trim keyword.word = trim token) ∨
    (∃ operator ∈ b.operators, trim operator.symbol = trim token)
  semanticActions : ∀ action ∈ b.semanticActions, trim action.ruleName ≠ "" ∧ trim action.code ≠ ""
  actionRules : ∀ action ∈ b.semanticActions,
    (∃ rule ∈ b.grammarRules, trim rule.name = trim action.ruleName) ∨
    (∃ rule ∈ b.syntaxRules, trim rule.pattern = trim action.ruleName)

end Blueprint

namespace Review

/-! ### Finding nothing -/

theorem isBlank_eq_false {text : String} : isBlank text = false ↔ trim text ≠ "" := by
  rw [← Bool.not_eq_true, isBlank_iff_trim]

/-- What is asked of every part at its place, whatever the place, is asked of every part. -/
theorem forall_mem_zipIdx {α : Type} {p : α → Prop} {q : α × Nat → Prop} {parts : List α}
    (h : ∀ part index, q (part, index) ↔ p part) :
    (∀ place ∈ parts.zipIdx, q place) ↔ ∀ part ∈ parts, p part := by
  conv => rhs; rw [← List.zipIdx_map_fst 0 parts]
  rw [List.forall_mem_map]
  exact forall₂_congr (fun place _ => h place.1 place.2)

theorem eraseDups_eq_nil {values : List String} : values.eraseDups = [] ↔ values = [] := by
  simp only [List.eq_nil_iff_forall_not_mem, List.mem_eraseDups]

theorem placesWhere_eq_nil {α : Type} {fails : α → Bool} {parts : List α} :
    placesWhere fails parts = [] ↔ ∀ part ∈ parts, fails part = false := by
  rw [placesWhere, List.filterMap_eq_nil_iff]
  refine forall_mem_zipIdx (fun part index => ?_)
  simp only [ite_eq_right_iff, reduceCtorEq, imp_false, Bool.not_eq_true]

theorem repeated_eq_nil {values : List String} : repeated values = [] ↔ values.Nodup := by
  rw [repeated, eraseDups_eq_nil, List.filter_eq_nil_iff, List.nodup_iff_count]
  constructor
  · intro h value
    by_cases hvalue : value ∈ values
    · simpa using h value hvalue
    · simp [List.count_eq_zero_of_not_mem hvalue]
  · intro h value _
    simpa using h value

theorem mem_namesIn {texts : List String} {name : String} :
    name ∈ namesIn texts ↔ name ≠ "" ∧ ∃ text ∈ texts, trim text = name := by
  simp only [namesIn, List.mem_filter, List.mem_map, decide_eq_true_eq]
  exact and_comm

/-- Texts are neither blank nor repeated exactly when nothing is found among them. -/
theorem texts_distinct {α : Type} {parts : List α} {get : α → String} :
    placesWhere (fun part => isBlank (get part)) parts = [] ∧
        repeated (namesIn (parts.map get)) = [] ↔
      (∀ part ∈ parts, trim (get part) ≠ "") ∧ (parts.map (fun part => trim (get part))).Nodup := by
  rw [placesWhere_eq_nil, repeated_eq_nil]
  simp only [isBlank_eq_false]
  refine and_congr_right (fun hblank => ?_)
  have hnames : namesIn (parts.map get) = parts.map (fun part => trim (get part)) := by
    have hnonblank : ∀ name ∈ parts.map (fun part => trim (get part)), name ≠ "" :=
      List.forall_mem_map.mpr hblank
    rw [namesIn, List.map_map]
    exact List.filter_eq_self.mpr (by simpa using hnonblank)
  rw [hnames]

theorem news_eq_nil {known values : List String} :
    news known [] values = [] ↔ ∀ value ∈ values, value ∈ known := by
  simp [news, eraseDups_eq_nil, List.filter_eq_nil_iff]

/-! ### One rule at a time -/

theorem checkName_eq_nil {b : Blueprint} : checkName b = [] ↔ trim b.name ≠ "" := by
  simp [checkName, isBlank_iff_trim]

theorem checkKeywords_eq_nil {b : Blueprint} :
    checkKeywords b = [] ↔
      (∀ keyword ∈ b.keywords, trim keyword.word ≠ "") ∧
      (b.keywords.map (fun keyword => trim keyword.word)).Nodup := by
  rw [checkKeywords, List.append_eq_nil_iff, List.map_eq_nil_iff, List.map_eq_nil_iff]
  exact texts_distinct

theorem checkOperatorSymbols_eq_nil {b : Blueprint} :
    checkOperatorSymbols b = [] ↔
      (∀ operator ∈ b.operators, trim operator.symbol ≠ "") ∧
      (b.operators.map (fun operator => trim operator.symbol)).Nodup := by
  rw [checkOperatorSymbols, List.append_eq_nil_iff, List.map_eq_nil_iff, List.map_eq_nil_iff]
  exact texts_distinct

theorem checkPrecedences_eq_nil {b : Blueprint} :
    checkPrecedences b = [] ↔ ∀ operator ∈ b.operators, operator.precedence ≠ none := by
  simp [checkPrecedences, List.filter_eq_nil_iff]

/-- Handles are told apart by their texts. -/
theorem nodup_handleTexts {rules : List GrammarRule} :
    (rules.map (·.nodeId.text)).Nodup ↔ (rules.map (·.nodeId)).Nodup := by
  have htext : Function.Injective NodeId.text := by
    rintro ⟨s⟩ ⟨t⟩ h
    exact congrArg NodeId.mk h
  rw [← List.nodup_map_iff htext, List.map_map]
  rfl

theorem checkGrammarRules_eq_nil {b : Blueprint} :
    checkGrammarRules b = [] ↔
      (∀ rule ∈ b.grammarRules, trim rule.name ≠ "" ∧ trim rule.pattern ≠ "") ∧
      (b.grammarRules.map (·.nodeId)).Nodup := by
  rw [checkGrammarRules, List.append_eq_nil_iff, List.map_eq_nil_iff, List.map_eq_nil_iff,
    repeated_eq_nil, nodup_handleTexts, List.filter_eq_nil_iff]
  simp only [Bool.or_eq_true, not_or, Bool.not_eq_true, isBlank_eq_false]

/-- As long as nothing is found, nothing is reported that a later finding could be hidden by. -/
theorem news_and_rest_eq_nil {known values : List String} {f : List String → List Violation} :
    (news known [] values = [] ∧ f ([] ++ news known [] values) = []) ↔
      (∀ value ∈ values, value ∈ known) ∧ f [] = [] := by
  rw [← news_eq_nil]
  refine and_congr_right (fun hnews => ?_)
  rw [hnews, List.append_nil]

theorem checkSyntaxRulesFrom_eq_nil {declared : List String} {rules : List SyntaxRule} :
    ∀ {index : Nat}, checkSyntaxRulesFrom declared [] index rules = [] ↔
      ∀ rule ∈ rules, trim rule.pattern ≠ "" ∧ ∀ name ∈ namesIn rule.tokens, name ∈ declared := by
  -- the tokens reported so far stay [] in the induction, by the lemma above
  induction rules with
  | nil => simp [checkSyntaxRulesFrom]
  | cons rule rules ih =>
      intro index
      rw [checkSyntaxRulesFrom, List.append_eq_nil_iff, List.append_eq_nil_iff,
        List.map_eq_nil_iff, and_assoc,
        news_and_rest_eq_nil (f := fun reported =>
          checkSyntaxRulesFrom declared reported (index + 1) rules),
        ih, List.forall_mem_cons, and_assoc]
      simp [isBlank_iff_trim]

theorem checkSemanticActionsFrom_eq_nil {known : List String} {actions : List SemanticAction} :
    ∀ {index : Nat}, checkSemanticActionsFrom known [] index actions = [] ↔
      ∀ action ∈ actions, (trim action.ruleName ≠ "" ∧ trim action.code ≠ "") ∧
        ∀ name ∈ namesIn [action.ruleName], name ∈ known := by
  induction actions with
  | nil => simp [checkSemanticActionsFrom]
  | cons action actions ih =>
      intro index
      rw [checkSemanticActionsFrom, List.append_eq_nil_iff, List.append_eq_nil_iff,
        List.map_eq_nil_iff, and_assoc,
        news_and_rest_eq_nil (f := fun reported =>
          checkSemanticActionsFrom known reported (index + 1) actions),
        ih, List.forall_mem_cons, and_assoc]
      simp [isBlank_iff_trim]

theorem mem_declaredTokens {b : Blueprint} {name : String} (hname : name ≠ "") :
    name ∈ declaredTokens b ↔
      (∃ keyword ∈ b.keywords, trim keyword.word = name) ∨
      (∃ operator ∈ b.operators, trim operator.symbol = name) := by
  simp [declaredTokens, mem_namesIn, hname, or_and_right, exists_or]

theorem mem_ruleNames {b : Blueprint} {name : String} (hname : name ≠ "") :
    name ∈ ruleNames b ↔
      (∃ rule ∈ b.grammarRules, trim rule.name = name) ∨
      (∃ rule ∈ b.syntaxRules, trim rule.pattern = name) := by
  simp [ruleNames, mem_namesIn, hname, or_and_right, exists_or]

theorem checkSyntaxRules_eq_nil {b : Blueprint} :
    checkSyntaxRules b = [] ↔
      ∀ rule ∈ b.syntaxRules, trim rule.pattern ≠ "" ∧
        ∀ token ∈ rule.tokens, trim token ≠ "" →
          (∃ keyword ∈ b.keywords, trim keyword.word = trim token) ∨
          (∃ operator ∈ b.operators, trim operator.symbol = trim token) := by
  rw [checkSyntaxRules, checkSyntaxRulesFrom_eq_nil]
  refine forall₂_congr (fun rule _ => and_congr_right (fun _ => ?_))
  constructor
  · intro h token htoken hblank
    exact (mem_declaredTokens hblank).mp (h _ (mem_namesIn.mpr ⟨hblank, token, htoken, rfl⟩))
  · intro h name hname
    obtain ⟨hblank, token, htoken, rfl⟩ := mem_namesIn.mp hname
    exact (mem_declaredTokens hblank).mpr (h token htoken hblank)

theorem checkSemanticActions_eq_nil {b : Blueprint} :
    checkSemanticActions b = [] ↔
      ∀ action ∈ b.semanticActions, (trim action.ruleName ≠ "" ∧ trim action.code ≠ "") ∧
        ((∃ rule ∈ b.grammarRules, trim rule.name = trim action.ruleName) ∨
          (∃ rule ∈ b.syntaxRules, trim rule.pattern = trim action.ruleName)) := by
  rw [checkSemanticActions, checkSemanticActionsFrom_eq_nil]
  refine forall₂_congr (fun action _ => and_congr_right (fun ⟨hblank, _⟩ => ?_))
  rw [← mem_ruleNames hblank]
  constructor
  · intro h
    exact h _ (mem_namesIn.mpr ⟨hblank, action.ruleName, by simp, rfl⟩)
  · intro h name hname
    obtain ⟨-, text, htext, rfl⟩ := mem_namesIn.mp hname
    rw [List.mem_singleton.mp htext]
    exact h

theorem checkBuiltins_eq_nil {b : Blueprint} :
    checkBuiltins b = [] ↔
      ∀ builtin ∈ b.builtins, (trim builtin.name ≠ "" ∧ trim builtin.description ≠ "") ∧
        ∀ parameter ∈ builtin.parameters, b.types.contains parameter.type = true := by
  have hone : ∀ builtin index, checkBuiltin b.types builtin index = [] ↔
      (trim builtin.name ≠ "" ∧ trim builtin.description ≠ "") ∧
        ∀ parameter ∈ builtin.parameters, b.types.contains parameter.type = true := by
    intro builtin index
    rw [checkBuiltin, List.append_eq_nil_iff, List.map_eq_nil_iff, List.filter_eq_nil_iff]
    simp [isBlank_iff_trim]
  rw [checkBuiltins, List.flatMap_eq_nil_iff]
  exact forall_mem_zipIdx hone

theorem checkBackend_eq_nil {b : Blueprint} :
    checkBackend b = [] ↔ (b.execution = .compiled → b.backend ≠ none) := by
  rw [checkBackend, ite_eq_right_iff]
  simp only [List.cons_ne_nil, imp_false, not_and, ne_eq]

/-! ### Which rules hold up a save -/

/-- Every finding is blocking, or none is. -/
def Uniform (blocking : Bool) (violations : List Violation) : Prop :=
  ∀ violation ∈ violations, violation.isBlocking = blocking

section

variable {blocking : Bool} {violations more : List Violation}

theorem uniform_nil : Uniform blocking [] := by
  intro violation hviolation
  cases hviolation

theorem uniform_append (h : Uniform blocking violations) (hmore : Uniform blocking more) :
    Uniform blocking (violations ++ more) :=
  List.forall_mem_append.mpr ⟨h, hmore⟩

theorem uniform_map {α : Type} {parts : List α} {f : α → Violation}
    (h : ∀ part, (f part).isBlocking = blocking) : Uniform blocking (parts.map f) :=
  List.forall_mem_map.mpr (fun part _ => h part)

theorem uniform_ite {c : Prop} [Decidable c] {violation : Violation}
    (h : violation.isBlocking = blocking) :
    Uniform blocking (if c then [violation] else []) := by
  split
  · intro other hother
    rw [List.mem_singleton.mp hother]
    exact h
  · exact uniform_nil

end

theorem uniform_checkSyntaxRulesFrom (declared : List String) (rules : List SyntaxRule) :
    ∀ reported index, Uniform false (checkSyntaxRulesFrom declared reported index rules) := by
  induction rules with
  | nil => exact fun _ _ => uniform_nil
  | cons rule rules ih =>
      intro reported index
      refine uniform_append (uniform_append ?_ ?_) (ih _ _)
      · exact uniform_ite rfl
      · exact uniform_map (fun _ => rfl)

theorem uniform_checkSemanticActionsFrom (known : List String)
    (actions : List SemanticAction) :
    ∀ reported index,
      Uniform false (checkSemanticActionsFrom known reported index actions) := by
  induction actions with
  | nil => exact fun _ _ => uniform_nil
  | cons action actions ih =>
      intro reported index
      refine uniform_append (uniform_append ?_ ?_) (ih _ _)
      · exact uniform_ite rfl
      · exact uniform_map (fun _ => rfl)

theorem uniform_checkBuiltins (b : Blueprint) : Uniform true (checkBuiltins b) := by
  intro violation hviolation
  obtain ⟨⟨builtin, index⟩, -, hfound⟩ := List.mem_flatMap.mp hviolation
  have hone : Uniform true (checkBuiltin b.types builtin index) :=
    uniform_append (uniform_ite rfl) (uniform_map (fun _ => rfl))
  exact hone violation hfound

/-- Only the rules about syntax rules and semantic actions let a blueprint be stored. -/
theorem blocking_eq (b : Blueprint) :
    b.blocking = checkName b ++ checkKeywords b ++ checkOperatorSymbols b ++ checkPrecedences b ++
      checkGrammarRules b ++ checkBuiltins b ++ checkBackend b := by
  have hname : Uniform true (checkName b) := uniform_ite rfl
  have hkeywords : Uniform true (checkKeywords b) :=
    uniform_append (uniform_map (fun _ => rfl)) (uniform_map (fun _ => rfl))
  have hoperators : Uniform true (checkOperatorSymbols b) :=
    uniform_append (uniform_map (fun _ => rfl)) (uniform_map (fun _ => rfl))
  have hprecedences : Uniform true (checkPrecedences b) := uniform_map (fun _ => rfl)
  have hgrammar : Uniform true (checkGrammarRules b) :=
    uniform_append (uniform_map (fun _ => rfl)) (uniform_map (fun _ => rfl))
  have hbackend : Uniform true (checkBackend b) := uniform_ite rfl
  have hrules : Uniform false (checkSyntaxRules b) :=
    uniform_checkSyntaxRulesFrom _ _ _ _
  have hactions : Uniform false (checkSemanticActions b) :=
    uniform_checkSemanticActionsFrom _ _ _ _
  have hkeep : ∀ {violations}, Uniform true violations →
      violations.filter Violation.isBlocking = violations :=
    fun h => List.filter_eq_self.mpr h
  have hdrop : ∀ {violations}, Uniform false violations →
      violations.filter Violation.isBlocking = [] :=
    fun h => List.filter_eq_nil_iff.mpr (fun violation hin => by simp [h violation hin])
  rw [Blueprint.blocking, Blueprint.review]
  simp only [List.filter_append, hkeep hname, hkeep hkeywords, hkeep hoperators,
    hkeep hprecedences, hkeep hgrammar, hkeep (uniform_checkBuiltins b), hkeep hbackend,
    hdrop hrules, hdrop hactions, List.append_nil]

end Review

namespace Blueprint

open Review

/-! ### The verdicts -/

theorem blocking_eq_nil {b : Blueprint} : b.blocking = [] ↔ b.Storable := by
  simp only [blocking_eq, List.append_eq_nil_iff, checkName_eq_nil, checkKeywords_eq_nil,
    checkOperatorSymbols_eq_nil, checkPrecedences_eq_nil, checkGrammarRules_eq_nil,
    checkBuiltins_eq_nil, checkBackend_eq_nil]
  constructor
  · rintro ⟨⟨⟨⟨⟨⟨hname, hkeywords, hkeywordsDistinct⟩, hoperators, hoperatorsDistinct⟩,
      hprecedences⟩, hgrammar, hhandles⟩, hbuiltins⟩, hbackend⟩
    exact {
      name := hname
      keywords := hkeywords
      keywordsDistinct := hkeywordsDistinct
      operators := hoperators
      operatorsDistinct := hoperatorsDistinct
      precedences := hprecedences
      grammarRules := hgrammar
      handlesDistinct := hhandles
      builtins := fun builtin hin => (hbuiltins builtin hin).1
      parameterTypes := fun builtin hin => (hbuiltins builtin hin).2
      backend := hbackend }
  · intro h
    exact ⟨⟨⟨⟨⟨⟨h.name, h.keywords, h.keywordsDistinct⟩, h.operators, h.operatorsDistinct⟩,
      h.precedences⟩, h.grammarRules, h.handlesDistinct⟩,
      fun builtin hin => ⟨h.builtins builtin hin, h.parameterTypes builtin hin⟩⟩, h.backend⟩

/-- Besides the blocking findings there are those of two rules. -/
theorem review_eq_nil {b : Blueprint} :
    b.review = [] ↔ b.blocking = [] ∧ checkSyntaxRules b = [] ∧ checkSemanticActions b = [] := by
  simp only [review, blocking_eq, List.append_eq_nil_iff]
  tauto

theorem review_eq_nil_iff_generable {b : Blueprint} : b.review = [] ↔ b.Generable := by
  rw [review_eq_nil, blocking_eq_nil, checkSyntaxRules_eq_nil, checkSemanticActions_eq_nil]
  constructor
  · rintro ⟨hstorable, hrules, hactions⟩
    exact {
      toStorable := hstorable
      patterns := fun rule hin => (hrules rule hin).1
      tokens := fun rule hin => (hrules rule hin).2
      semanticActions := fun action hin => (hactions action hin).1
      actionRules := fun action hin => (hactions action hin).2 }
  · intro h
    exact ⟨h.toStorable, fun rule hin => ⟨h.patterns rule hin, h.tokens rule hin⟩,
      fun action hin => ⟨h.semanticActions action hin, h.actionRules action hin⟩⟩

/-- **Both verdicts of the review are exact.** -/
theorem verdicts_exact (b : Blueprint) :
    (b.permitsSave = true ↔ b.Storable) ∧ (b.permitsGenerate = true ↔ b.Generable) := by
  rw [permitsSave, permitsGenerate, List.isEmpty_iff, List.isEmpty_iff]
  exact ⟨blocking_eq_nil, review_eq_nil_iff_generable⟩

end Blueprint

end LanguageBlueprint
