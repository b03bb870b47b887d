/-
  LanguageBlueprint/Proofs/Review/Addition.lean
  =============================================
  **Declaring something more.**  A well-formed part with a name of its own at the
  end of its collection makes no new finding.  It can only be what others have
  referred to in vain: then the one finding that told this is gone, and all others
  stay as they are, in their order and with their places.

    * texts that are to be distinct            — `texts_concat`;
    * names that become known                  — `checkSyntaxRules_learned`,
      `checkSemanticActions_learned`;
    * one kind of part at a time               — `review_append_keyword`, …;
    * all of them                              — `addition_repairs`.
-/
import LanguageBlueprint.Blueprint.Edit
import LanguageBlueprint.Proofs.Review.Rule

namespace LanguageBlueprint

open Text

/-- A part is well formed and fresh, and the finding is what it can put right. -/
inductive Blueprint.Repairs (b : Blueprint) : Part → Violation → Prop
  | keyword (keyword : Keyword) (hword : trim keyword.word ≠ "")
      (hfresh : ∀ old ∈ b.keywords, trim old.word ≠ trim keyword.word) :
      Repairs b (.keyword keyword) (.unresolvedToken (trim keyword.word))
  | operator (operator : Operator) (hprecedence : operator.precedence ≠ none)
      (hsymbol : trim operator.symbol ≠ "")
      (hfresh : ∀ old ∈ b.operators, trim old.symbol ≠ trim operator.symbol) :
      Repairs b (.operator operator) (.unresolvedToken (trim operator.symbol))
  | grammarRule (rule : GrammarRule) (hname : trim rule.name ≠ "")
      (hpattern : trim rule.pattern ≠ "")
      (hfresh : ∀ old ∈ b.grammarRules, old.nodeId ≠ rule.nodeId) :
      Repairs b (.grammarRule rule) (.danglingActionReference (trim rule.name))
  | syntaxRule (rule : SyntaxRule) (hpattern : trim rule.pattern ≠ "")
      (htokens : ∀ token ∈ rule.tokens, trim token ≠ "" →
        (∃ keyword ∈ b.keywords, trim keyword.word = trim token) ∨
        (∃ operator ∈ b.operators, trim operator.symbol = trim token)) :
      Repairs b (.syntaxRule rule) (.danglingActionReference (trim rule.pattern))

namespace Review

/-! ### One part more -/

section

variable {α : Type} {parts : List α} {part : α}

/-- A new value at the end repeats none. -/
theorem repeated_concat {values : List String} {value : String} (h : value ∉ values) :
    repeated (values ++ [value]) = repeated values := by
  have hold : ∀ old ∈ values, (values ++ [value]).count old = values.count old := by
    intro old hin
    have hne : value ≠ old := fun heq => h (heq ▸ hin)
    simp [List.count_append, hne]
  have hlast : (values ++ [value]).count value = 1 := by
    simp [List.count_append, List.count_eq_zero_of_not_mem h]
  rw [repeated, repeated, List.filter_append, List.filter_cons_of_neg (by simp [hlast]),
    List.filter_nil, List.append_nil]
  congr 1
  apply List.filter_congr
  intro old hin
  rw [hold old hin]

/-- A text that is neither blank nor there already changes nothing among distinct texts. -/
theorem texts_concat {get : α → String} {tell : Nat → Violation} {report : String → Violation}
    (hblank : trim (get part) ≠ "") (hfresh : ∀ old ∈ parts, trim (get old) ≠ trim (get part)) :
    (placesWhere (fun part => isBlank (get part)) (parts ++ [part])).map tell ++
        (repeated (namesIn ((parts ++ [part]).map get))).map report =
      (placesWhere (fun part => isBlank (get part)) parts).map tell ++
        (repeated (namesIn (parts.map get))).map report := by
  have hnew : trim (get part) ∉ namesIn (parts.map get) := by
    intro hin
    rcases mem_namesIn.mp hin with ⟨-, text, htext, heq⟩
    rcases List.mem_map.mp htext with ⟨old, hold, rfl⟩
    exact hfresh old hold heq
  have hplaces : placesWhere (fun part => isBlank (get part)) (parts ++ [part]) =
      placesWhere (fun part => isBlank (get part)) parts :=
    placesWhere_concat (isBlank_eq_false.mpr hblank)
  rw [hplaces, List.map_append, List.map_cons, List.map_nil, namesIn_append,
    namesIn_singleton hblank, repeated_concat hnew]

/-- With a text that is not blank one more name is there. -/
theorem mem_namesIn_learned {texts more : List String} {text : String} (hblank : trim text ≠ "")
    (hmore : ∀ other, other ∈ more ↔ other ∈ texts ∨ other = text) (name : String) :
    name ∈ namesIn more ↔ name ∈ namesIn texts ∨ name = trim text := by
  rw [mem_namesIn, mem_namesIn]
  constructor
  · rintro ⟨hname, other, hother, rfl⟩
    rcases (hmore other).mp hother with hold | rfl
    · exact .inl ⟨hname, other, hold, rfl⟩
    · exact .inr rfl
  · rintro (⟨hname, other, hother, rfl⟩ | rfl)
    · exact ⟨hname, other, (hmore other).mpr (.inl hother), rfl⟩
    · exact ⟨hblank, text, (hmore text).mpr (.inr rfl), rfl⟩

end

section

variable {b other : Blueprint} {name : String}

theorem checkSyntaxRules_learned
    (hlearned : ∀ token, token ∈ declaredTokens other ↔ token ∈ declaredTokens b ∨ token = name)
    (hrules : other.syntaxRules = b.syntaxRules) :
    checkSyntaxRules other =
      (checkSyntaxRules b).filter (fun finding => finding ≠ .unresolvedToken name) := by
  rw [checkSyntaxRules_eq_pass, checkSyntaxRules_eq_pass, hrules]
  exact Referring.syntaxRule.passFrom_learned hlearned 0 (fun _ _ => Iff.rfl)

theorem checkSemanticActions_learned
    (hlearned : ∀ rule, rule ∈ ruleNames other ↔ rule ∈ ruleNames b ∨ rule = name)
    (hactions : other.semanticActions = b.semanticActions) :
    checkSemanticActions other =
      (checkSemanticActions b).filter (fun finding => finding ≠ .danglingActionReference name) := by
  rw [checkSemanticActions_eq_pass, checkSemanticActions_eq_pass, hactions]
  exact Referring.semanticAction.passFrom_learned hlearned 0 (fun _ _ => Iff.rfl)

end

/-! ### One kind of part at a time -/

section

variable (b : Blueprint)

theorem review_append_keyword {keyword : Keyword} (hword : trim keyword.word ≠ "")
    (hfresh : ∀ old ∈ b.keywords, trim old.word ≠ trim keyword.word) :
    (b.append (.keyword keyword)).review =
      b.review.filter (fun finding => finding ≠ .unresolvedToken (trim keyword.word)) := by
  have hlearned : ∀ token, token ∈ declaredTokens (b.append (.keyword keyword)) ↔
      token ∈ declaredTokens b ∨ token = trim keyword.word := by
    apply mem_namesIn_learned hword
    intro other
    simp only [Blueprint.append, List.map_append, List.map_cons, List.map_nil, List.mem_append,
      List.mem_singleton]
    exact or_right_comm
  apply review_eq_filter
  · exact checkSyntaxRules_learned hlearned rfl
  · intro rule hrule
    cases rule with
    | keywords => exact texts_concat hword hfresh
    | syntaxRules => exact absurd rfl hrule
    | name | operatorSymbols | precedences | grammarRules | semanticActions | builtins | backend =>
        rfl

theorem review_append_operator {operator : Operator} (hprecedence : operator.precedence ≠ none)
    (hsymbol : trim operator.symbol ≠ "")
    (hfresh : ∀ old ∈ b.operators, trim old.symbol ≠ trim operator.symbol) :
    (b.append (.operator operator)).review =
      b.review.filter (fun finding => finding ≠ .unresolvedToken (trim operator.symbol)) := by
  have hlearned : ∀ token, token ∈ declaredTokens (b.append (.operator operator)) ↔
      token ∈ declaredTokens b ∨ token = trim operator.symbol := by
    apply mem_namesIn_learned hsymbol
    intro other
    simp only [Blueprint.append, List.map_append, List.map_cons, List.map_nil, List.mem_append,
      List.mem_singleton]
    exact or_assoc.symm
  apply review_eq_filter
  · exact checkSyntaxRules_learned hlearned rfl
  · intro rule hrule
    cases rule with
    | operatorSymbols => exact texts_concat hsymbol hfresh
    | precedences =>
        have hnone : operator.precedence.isNone = false :=
          Option.isNone_eq_false_iff.mpr (Option.isSome_iff_ne_none.mpr hprecedence)
        simp [Rule.findings, checkPrecedences, Blueprint.append, hnone]
    | syntaxRules => exact absurd rfl hrule
    | name | keywords | grammarRules | semanticActions | builtins | backend => rfl

theorem review_append_grammarRule {rule : GrammarRule} (hname : trim rule.name ≠ "")
    (hpattern : trim rule.pattern ≠ "")
    (hfresh : ∀ old ∈ b.grammarRules, old.nodeId ≠ rule.nodeId) :
    (b.append (.grammarRule rule)).review =
      b.review.filter (fun finding => finding ≠ .danglingActionReference (trim rule.name)) := by
  have hlearned : ∀ name, name ∈ ruleNames (b.append (.grammarRule rule)) ↔
      name ∈ ruleNames b ∨ name = trim rule.name := by
    apply mem_namesIn_learned hname
    intro other
    simp only [Blueprint.append, List.map_append, List.map_cons, List.map_nil, List.mem_append,
      List.mem_singleton]
    exact or_right_comm
  apply review_eq_filter
  · exact checkSemanticActions_learned hlearned rfl
  · intro checked hchecked
    cases checked with
    | grammarRules =>
        have hcomplete : (isBlank rule.name || isBlank rule.pattern) = false := by
          simp [isBlank_eq_false.mpr hname, isBlank_eq_false.mpr hpattern]
        have hnew : rule.nodeId.text ∉ b.grammarRules.map (·.nodeId.text) := by
          intro hin
          rcases List.mem_map.mp hin with ⟨old, hold, htext⟩
          exact hfresh old hold (congrArg NodeId.mk htext)
        simp [Rule.findings, checkGrammarRules, Blueprint.append, hcomplete, repeated_concat hnew]
    | semanticActions => exact absurd rfl hchecked
    | name | keywords | operatorSymbols | precedences | syntaxRules | builtins | backend => rfl

theorem review_append_syntaxRule {rule : SyntaxRule} (hpattern : trim rule.pattern ≠ "")
    (htokens : ∀ token ∈ rule.tokens, trim token ≠ "" →
      (∃ keyword ∈ b.keywords, trim keyword.word = trim token) ∨
      (∃ operator ∈ b.operators, trim operator.symbol = trim token)) :
    (b.append (.syntaxRule rule)).review =
      b.review.filter (fun finding => finding ≠ .danglingActionReference (trim rule.pattern)) := by
  have hlearned : ∀ name, name ∈ ruleNames (b.append (.syntaxRule rule)) ↔
      name ∈ ruleNames b ∨ name = trim rule.pattern := by
    apply mem_namesIn_learned hpattern
    intro other
    simp only [Blueprint.append, List.map_append, List.map_cons, List.map_nil, List.mem_append,
      List.mem_singleton]
    exact or_assoc.symm
  apply review_eq_filter
  · exact checkSemanticActions_learned hlearned rfl
  · intro checked hchecked
    cases checked with
    | syntaxRules =>
        have hknown : ∀ name ∈ namesIn rule.tokens, name ∈ declaredTokens b := by
          intro name hname
          rcases mem_namesIn.mp hname with ⟨hblank, token, htoken, rfl⟩
          exact (mem_declaredTokens hblank).mpr (htokens token htoken hblank)
        rw [Rule.findings, Rule.findings, checkSyntaxRules_eq_pass, checkSyntaxRules_eq_pass]
        exact Referring.syntaxRule.passFrom_concat (isBlank_eq_false.mpr hpattern) hknown [] 0
    | semanticActions => exact absurd rfl hchecked
    | name | keywords | operatorSymbols | precedences | grammarRules | builtins | backend => rfl

end

end Review

open Review

namespace Blueprint

variable {b : Blueprint} {part : Part} {gone : Violation}

/-- What a fresh part puts right has not kept the blueprint from being stored. -/
theorem Repairs.isBlocking (h : b.Repairs part gone) : gone.isBlocking = false := by
  cases h <;> rfl

theorem Repairs.review (h : b.Repairs part gone) :
    (b.append part).review = b.review.filter (fun finding => finding ≠ gone) := by
  cases h with
  | keyword keyword hword hfresh => exact review_append_keyword b hword hfresh
  | operator operator hprecedence hsymbol hfresh =>
      exact review_append_operator b hprecedence hsymbol hfresh
  | grammarRule rule hname hpattern hfresh =>
      exact review_append_grammarRule b hname hpattern hfresh
  | syntaxRule rule hpattern htokens => exact review_append_syntaxRule b hpattern htokens

/-- **A well-formed and fresh part can only repair.**  The review loses the one finding that the
part puts right, and no verdict gets worse. -/
theorem addition_repairs (h : b.Repairs part gone) :
    (b.apply (.append part)).review = b.review.filter (fun finding => finding ≠ gone) ∧
    (b.apply (.append part)).permitsSave = b.permitsSave ∧
    (b.permitsGenerate = true → (b.apply (.append part)).permitsGenerate = true) := by
  have hreview : (b.apply (.append part)).review =
      b.review.filter (fun finding => finding ≠ gone) := h.review
  refine ⟨hreview, ?_, ?_⟩
  · rw [Bool.eq_iff_iff, permitsSave_iff_forall, permitsSave_iff_forall, hreview]
    constructor
    · intro hall finding hfinding
      by_cases hgone : finding = gone
      · rw [hgone]
        exact h.isBlocking
      · exact hall finding (List.mem_filter.mpr ⟨hfinding, decide_eq_true hgone⟩)
    · intro hall finding hfinding
      exact hall finding (List.mem_of_mem_filter hfinding)
  · rw [permitsGenerate, permitsGenerate, List.isEmpty_iff, List.isEmpty_iff, hreview]
    intro hnone
    rw [hnone, List.filter_nil]

/-- A blueprint with a rule about words that it does not declare. -/
def wanting : Blueprint where
  name := "Toy"
  syntaxRules := [{ pattern := "x", tokens := ["if", "then"] }, { pattern := "y", tokens := ["if"] }]
  keywords := [{ word := "then" }]

theorem addition_repairs_wanting :
    wanting.Repairs (.keyword { word := " if " }) (.unresolvedToken "if") ∧
    wanting.review = [.unresolvedToken "if"] ∧
    (wanting.apply (.append (.keyword { word := " if " }))).review =
      wanting.review.filter (fun finding => finding ≠ .unresolvedToken "if") ∧
    (wanting.apply (.append (.keyword { word := " if " }))).permitsSave = wanting.permitsSave ∧
    (wanting.permitsGenerate = true →
      (wanting.apply (.append (.keyword { word := " if " }))).permitsGenerate = true) := by
  have htrim : trim " if " = "if" := by decide
  have hrepairs : wanting.Repairs (.keyword { word := " if " }) (.unresolvedToken (trim " if ")) :=
    .keyword _ (by decide) (by decide)
  rw [htrim] at hrepairs
  exact ⟨hrepairs, by decide, addition_repairs hrepairs⟩

end Blueprint

end LanguageBlueprint
