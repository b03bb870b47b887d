/-
  LanguageBlueprint/Proofs/Review/Report.lean
  ===========================================
  **What the review tells.**  `ExactReport` says of a list of findings what each
  kind of finding in it is, how often it occurs and in which order, by looking at
  the blueprint only.  A place is told once, in ascending order.  A value is told
  once, in the order of its first occurrence.  No finding depends on whether there
  are others.

    * places and first occurrences of a list   — `places_placesWhere`,
      `firstOccurrences_eraseDups`;
    * each kind of finding in its rule         — `coded_pass_places`, `coded_pass_names`,
      `coded_checkBuiltins_places`, `coded_checkBuiltins_types`;
    * the review is exact                      — `review_exact`.
-/
import LanguageBlueprint.Proofs.Review.Rule

namespace LanguageBlueprint

open Text

namespace Review

/-! ### Places, first occurrences, kinds of findings -/

/-- The places of the parts that fail, each once, in ascending order. -/
structure Places {α : Type} (parts : List α) (fails : α → Prop) (places : List Nat) : Prop where
  mem : ∀ place, place ∈ places ↔ ∃ part, parts[place]? = some part ∧ fails part
  ascending : places.Pairwise (· < ·)

/-- The values that qualify, each once, in the order in which they occur first. -/
structure FirstOccurrences (values : List String) (qualifies : String → Prop)
    (listed : List String) : Prop where
  mem : ∀ value, value ∈ listed ↔ value ∈ values ∧ qualifies value
  ordered : listed.Pairwise (fun value next => values.idxOf value < values.idxOf next)

/-- The findings of one kind. -/
def coded (code : String) (report : List Violation) : List Violation :=
  report.filter (fun finding => finding.code = code)

/-- What an exact report of a blueprint is. -/
structure ExactReport (b : Blueprint) (report : List Violation) : Prop where
  byRule : report.Pairwise (fun finding next => finding.rule.number ≤ next.rule.number)
  name : coded "MissingName" report = if trim b.name = "" then [.missingName] else []
  emptyKeywords : ∃ places,
    Places b.keywords (fun keyword => trim keyword.word = "") places ∧
    coded "EmptyKeyword" report = places.map .emptyKeyword
  duplicateKeywords : ∃ words,
    FirstOccurrences (b.keywords.map (fun keyword => trim keyword.word))
      (fun word => word ≠ "" ∧
        2 ≤ (b.keywords.map (fun keyword => trim keyword.word)).count word) words ∧
    coded "DuplicateKeyword" report = words.map .duplicateKeyword
  emptyOperators : ∃ places,
    Places b.operators (fun operator => trim operator.symbol = "") places ∧
    coded "EmptyOperator" report = places.map .emptyOperator
  duplicateOperators : ∃ symbols,
    FirstOccurrences (b.operators.map (fun operator => trim operator.symbol))
      (fun symbol => symbol ≠ "" ∧
        2 ≤ (b.operators.map (fun operator => trim operator.symbol)).count symbol) symbols ∧
    coded "DuplicateOperator" report = symbols.map .duplicateOperator
  precedences : coded "InvalidPrecedence" report =
    (b.operators.filter (fun operator => operator.precedence = none)).map
      (fun operator => .invalidPrecedence operator.symbol)
  grammarRules : coded "IncompleteGrammarRule" report =
    (b.grammarRules.filter (fun rule => trim rule.name = "" ∨ trim rule.pattern = "")).map
      (fun rule => .incompleteGrammarRule rule.nodeId)
  duplicateHandles : ∃ handles,
    FirstOccurrences (b.grammarRules.map (·.nodeId.text))
      (fun handle => 2 ≤ (b.grammarRules.map (·.nodeId.text)).count handle) handles ∧
    coded "DuplicateNodeId" report = handles.map (fun handle => .duplicateNodeId ⟨handle⟩)
  syntaxRules : ∃ places,
    Places b.syntaxRules (fun rule => trim rule.pattern = "") places ∧
    coded "IncompleteSyntaxRule" report = places.map .incompleteSyntaxRule
  unresolvedTokens : ∃ tokens,
    FirstOccurrences (b.syntaxRules.flatMap (fun rule => rule.tokens.map trim))
      (fun token => token ≠ "" ∧ (∀ keyword ∈ b.keywords, trim keyword.word ≠ token) ∧
        ∀ operator ∈ b.operators, trim operator.symbol ≠ token) tokens ∧
    coded "UnresolvedToken" report = tokens.map .unresolvedToken
  semanticActions : ∃ places,
    Places b.semanticActions (fun action => trim action.ruleName = "" ∨ trim action.code = "")
      places ∧
    coded "IncompleteSemanticAction" report = places.map .incompleteSemanticAction
  danglingReferences : ∃ names,
    FirstOccurrences (b.semanticActions.map (fun action => trim action.ruleName))
      (fun name => name ≠ "" ∧ (∀ rule ∈ b.grammarRules, trim rule.name ≠ name) ∧
        ∀ rule ∈ b.syntaxRules, trim rule.pattern ≠ name) names ∧
    coded "DanglingActionReference" report = names.map .danglingActionReference
  builtins : ∃ places,
    Places b.builtins (fun builtin => trim builtin.name = "" ∨ trim builtin.description = "")
      places ∧
    coded "IncompleteBuiltinFunction" report = places.map .incompleteBuiltin
  parameterTypes : coded "InvalidParameterType" report =
    b.builtins.flatMap (fun builtin =>
      (builtin.parameters.filter (fun parameter => b.types.contains parameter.type = false)).map
        (fun parameter => .invalidParameterType builtin.name parameter.name parameter.type))
  backend : coded "MissingCompilationTarget" report =
    if b.execution = .compiled ∧ b.backend = none then [.missingBackend] else []

/-! ### Lists of places and of values -/

section

variable {α : Type} {parts : List α} {fails : α → Bool} {isBad : α → Prop}

theorem places_placesWhere (h : ∀ part, fails part = true ↔ isBad part) :
    Places parts isBad (placesWhere fails parts) where
  mem := by
    intro place
    rw [mem_placesWhere]
    simp only [h]
  ascending := placesWhere_ascending

theorem firstOccurrences_eraseDups {values : List String} {keep : String → Bool}
    {qualifies : String → Prop} (h : ∀ value ∈ values, keep value = true ↔ qualifies value) :
    FirstOccurrences values qualifies (values.filter keep).eraseDups where
  mem := by
    intro value
    rw [List.mem_eraseDups, List.mem_filter]
    exact and_congr_right (h value)
  ordered := by
    rw [eraseDups_filter]
    exact (eraseDups_ordered values).filter keep

/-- The repeated values are those that occur at least twice. -/
theorem firstOccurrences_repeated (values : List String) :
    FirstOccurrences values (fun value => 2 ≤ values.count value) (repeated values) :=
  firstOccurrences_eraseDups (fun value _ => by simp [Nat.succ_le_iff])

/-- The repeated names are those trimmed texts that are not blank and occur at least twice. -/
theorem firstOccurrences_repeated_namesIn (texts : List String) :
    FirstOccurrences (texts.map trim)
      (fun name => name ≠ "" ∧ 2 ≤ (texts.map trim).count name) (repeated (namesIn texts)) := by
  rw [repeated, namesIn, List.filter_filter]
  apply firstOccurrences_eraseDups
  intro name _
  by_cases hblank : name = ""
  · simp [hblank]
  · simp [hblank, List.count_filter, Nat.succ_le_iff]

/-- The new names are those trimmed texts that are not blank and not known. -/
theorem firstOccurrences_news {known : List String} (texts : List String)
    {isUnknown : String → Prop}
    (h : ∀ name, name ≠ "" → (name ∉ known ↔ isUnknown name)) :
    FirstOccurrences (texts.map trim) (fun name => name ≠ "" ∧ isUnknown name)
      (news known [] (namesIn texts)) := by
  rw [news, namesIn, List.filter_filter]
  apply firstOccurrences_eraseDups
  intro name _
  by_cases hblank : name = ""
  · simp [hblank]
  · simp [hblank, ← h name hblank]

end

/-! ### Findings of one kind in lists of findings -/

section

variable {code : String} {report more : List Violation}

theorem coded_append : coded code (report ++ more) = coded code report ++ coded code more :=
  List.filter_append _ _

theorem coded_map {α : Type} {parts : List α} {f : α → Violation}
    (h : ∀ part, (f part).code = code) : coded code (parts.map f) = parts.map f := by
  apply List.filter_eq_self.mpr
  intro finding hfinding
  rcases List.mem_map.mp hfinding with ⟨part, -, rfl⟩
  exact decide_eq_true (h part)

theorem coded_map_other {α : Type} {parts : List α} {f : α → Violation}
    (h : ∀ part, (f part).code ≠ code) : coded code (parts.map f) = [] := by
  apply List.filter_eq_nil_iff.mpr
  intro finding hfinding
  rcases List.mem_map.mp hfinding with ⟨part, -, rfl⟩
  simp [h part]

theorem coded_ite {c : Prop} [Decidable c] {finding : Violation} (h : finding.code = code) :
    coded code (if c then [finding] else []) = if c then [finding] else [] := by
  split <;> simp [coded, h]

theorem coded_ite_other {c : Prop} [Decidable c] {finding : Violation} (h : finding.code ≠ code) :
    coded code (if c then [finding] else []) = [] := by
  split <;> simp [coded, h]

/-- Of two lists of findings, each of one kind, only one is of the kind asked for. -/
theorem coded_left {α β : Type} {parts : List α} {others : List β} {f : α → Violation}
    {g : β → Violation} (hf : ∀ part, (f part).code = code) (hg : ∀ part, (g part).code ≠ code) :
    coded code (parts.map f ++ others.map g) = parts.map f := by
  rw [coded_append, coded_map hf, coded_map_other hg, List.append_nil]

theorem coded_right {α β : Type} {parts : List α} {others : List β} {f : α → Violation}
    {g : β → Violation} (hf : ∀ part, (f part).code ≠ code) (hg : ∀ part, (g part).code = code) :
    coded code (parts.map f ++ others.map g) = others.map g := by
  rw [coded_append, coded_map_other hf, coded_map hg, List.nil_append]

end

/-- Findings of one kind are made under one rule. -/
theorem rule_of_code {finding other : Violation} (h : finding.code = other.code) :
    finding.rule = other.rule := by
  cases finding <;> cases other <;> first | rfl | simp [Violation.code] at h

/-- All findings of a kind are found in the rule of this kind. -/
theorem coded_review (b : Blueprint) (finding : Violation) :
    coded finding.code b.review = coded finding.code (finding.rule.findings b) :=
  filter_review b finding.rule (fun _ h => rule_of_code (of_decide_eq_true h))

section

variable {α : Type} (kind : Referring α) {code : String} {known : List String} {parts : List α}

theorem coded_pass_places (hplaces : ∀ place, (kind.atPlace place).code = code)
    (hnames : ∀ name, (kind.unknown name).code ≠ code) :
    coded code (kind.passFrom known [] 0 parts) =
      (placesWhere kind.incomplete parts).map kind.atPlace :=
  kind.filter_passFrom_places (fun place => decide_eq_true (hplaces place))
    (fun name => decide_eq_false (hnames name)) _ _

theorem coded_pass_names (hplaces : ∀ place, (kind.atPlace place).code ≠ code)
    (hnames : ∀ name, (kind.unknown name).code = code) :
    coded code (kind.passFrom known [] 0 parts) =
      (news known [] (parts.flatMap kind.names)).map kind.unknown :=
  kind.filter_passFrom_names (fun place => decide_eq_false (hplaces place))
    (fun name => decide_eq_true (hnames name)) _ _

end

theorem coded_checkBuiltins_places (b : Blueprint) :
    coded "IncompleteBuiltinFunction" (checkBuiltins b) =
      (placesWhere (fun builtin : Builtin => isBlank builtin.name || isBlank builtin.description)
        b.builtins).map .incompleteBuiltin := by
  rw [map_placesWhere, checkBuiltins, coded, List.filter_flatMap]
  apply List.flatMap_congr
  rintro ⟨builtin, index⟩ -
  have htypes : coded "IncompleteBuiltinFunction"
      ((builtin.parameters.filter (fun parameter => !b.types.contains parameter.type)).map
        (fun parameter => .invalidParameterType builtin.name parameter.name parameter.type)) = [] :=
    coded_map_other (by simp [Violation.code])
  change coded "IncompleteBuiltinFunction" (checkBuiltin b.types builtin index) = _
  rw [checkBuiltin, coded_append, htypes, List.append_nil]
  exact coded_ite rfl

theorem coded_checkBuiltins_types (b : Blueprint) :
    coded "InvalidParameterType" (checkBuiltins b) =
      b.builtins.flatMap (fun builtin =>
        (builtin.parameters.filter (fun parameter => b.types.contains parameter.type = false)).map
          (fun parameter => .invalidParameterType builtin.name parameter.name parameter.type)) := by
  conv => rhs; rw [← List.zipIdx_map_fst 0 b.builtins, List.flatMap_map]
  rw [checkBuiltins, coded, List.filter_flatMap]
  apply List.flatMap_congr
  rintro ⟨builtin, index⟩ -
  have hplace : coded "InvalidParameterType"
      (if isBlank builtin.name || isBlank builtin.description then [.incompleteBuiltin index]
       else []) = [] :=
    coded_ite_other (by simp [Violation.code])
  have htests : ∀ parameter : Parameter, (!b.types.contains parameter.type) =
      decide (b.types.contains parameter.type = false) := by
    intro parameter
    cases b.types.contains parameter.type <;> rfl
  change coded "InvalidParameterType" (checkBuiltin b.types builtin index) = _
  rw [checkBuiltin, coded_append, hplace, List.nil_append]
  simp only [htests]
  exact coded_map (fun _ => rfl)

/-! ### Each kind of finding in the review -/

section

variable (b : Blueprint)

theorem coded_missingName :
    coded "MissingName" b.review = if isBlank b.name then [.missingName] else [] :=
  (coded_review b .missingName).trans (coded_ite rfl)

theorem coded_emptyKeyword :
    coded "EmptyKeyword" b.review =
      (placesWhere (fun keyword : Keyword => isBlank keyword.word) b.keywords).map .emptyKeyword :=
  (coded_review b (.emptyKeyword 0)).trans
    (coded_left (fun _ => rfl) (by simp [Violation.code]))

theorem coded_duplicateKeyword :
    coded "DuplicateKeyword" b.review =
      (repeated (namesIn (b.keywords.map (·.word)))).map .duplicateKeyword :=
  (coded_review b (.duplicateKeyword "")).trans
    (coded_right (by simp [Violation.code]) (fun _ => rfl))

theorem coded_emptyOperator :
    coded "EmptyOperator" b.review =
      (placesWhere (fun operator : Operator => isBlank operator.symbol) b.operators).map
        .emptyOperator :=
  (coded_review b (.emptyOperator 0)).trans
    (coded_left (fun _ => rfl) (by simp [Violation.code]))

theorem coded_duplicateOperator :
    coded "DuplicateOperator" b.review =
      (repeated (namesIn (b.operators.map (·.symbol)))).map .duplicateOperator :=
  (coded_review b (.duplicateOperator "")).trans
    (coded_right (by simp [Violation.code]) (fun _ => rfl))

theorem coded_invalidPrecedence :
    coded "InvalidPrecedence" b.review =
      (b.operators.filter (fun operator => operator.precedence.isNone)).map
        (fun operator => .invalidPrecedence operator.symbol) := by
  refine (coded_review b (.invalidPrecedence "")).trans ?_
  exact coded_map (fun _ => rfl)

theorem coded_incompleteGrammarRule :
    coded "IncompleteGrammarRule" b.review =
      (b.grammarRules.filter (fun rule => isBlank rule.name || isBlank rule.pattern)).map
        (fun rule => .incompleteGrammarRule rule.nodeId) := by
  refine (coded_review b (.incompleteGrammarRule ⟨""⟩)).trans ?_
  exact coded_left (fun _ => rfl) (by simp [Violation.code])

theorem coded_duplicateNodeId :
    coded "DuplicateNodeId" b.review =
      (repeated (b.grammarRules.map (·.nodeId.text))).map (fun id => .duplicateNodeId ⟨id⟩) := by
  refine (coded_review b (.duplicateNodeId ⟨""⟩)).trans ?_
  exact coded_right (by simp [Violation.code]) (fun _ => rfl)

theorem coded_incompleteSyntaxRule :
    coded "IncompleteSyntaxRule" b.review =
      (placesWhere (fun rule : SyntaxRule => isBlank rule.pattern) b.syntaxRules).map
        .incompleteSyntaxRule := by
  refine (coded_review b (.incompleteSyntaxRule 0)).trans ?_
  refine (congrArg _ (checkSyntaxRules_eq_pass b)).trans ?_
  exact coded_pass_places Referring.syntaxRule (fun _ => rfl)
    (by simp [Violation.code, Referring.syntaxRule])

theorem coded_unresolvedToken :
    coded "UnresolvedToken" b.review =
      (news (declaredTokens b) [] (namesIn (b.syntaxRules.flatMap (·.tokens)))).map
        .unresolvedToken := by
  rw [namesIn_flatMap]
  refine (coded_review b (.unresolvedToken "")).trans ?_
  refine (congrArg _ (checkSyntaxRules_eq_pass b)).trans ?_
  exact coded_pass_names Referring.syntaxRule
    (by simp [Violation.code, Referring.syntaxRule]) (fun _ => rfl)

theorem coded_incompleteSemanticAction :
    coded "IncompleteSemanticAction" b.review =
      (placesWhere (fun action : SemanticAction => isBlank action.ruleName || isBlank action.code)
        b.semanticActions).map .incompleteSemanticAction := by
  refine (coded_review b (.incompleteSemanticAction 0)).trans ?_
  refine (congrArg _ (checkSemanticActions_eq_pass b)).trans ?_
  exact coded_pass_places Referring.semanticAction (fun _ => rfl)
    (by simp [Violation.code, Referring.semanticAction])

theorem coded_danglingActionReference :
    coded "DanglingActionReference" b.review =
      (news (ruleNames b) [] (namesIn (b.semanticActions.map (·.ruleName)))).map
        .danglingActionReference := by
  have hnames : namesIn (b.semanticActions.map (·.ruleName)) =
      b.semanticActions.flatMap Referring.semanticAction.names := by
    simp only [List.map_eq_flatMap, namesIn_flatMap, Referring.semanticAction]
  rw [hnames]
  refine (coded_review b (.danglingActionReference "")).trans ?_
  refine (congrArg _ (checkSemanticActions_eq_pass b)).trans ?_
  exact coded_pass_names Referring.semanticAction
    (by simp [Violation.code, Referring.semanticAction]) (fun _ => rfl)

theorem coded_missingBackend :
    coded "MissingCompilationTarget" b.review =
      if b.execution = .compiled ∧ b.backend = none then [.missingBackend] else [] :=
  (coded_review b .missingBackend).trans (coded_ite rfl)

end

/-! ### The review is exact -/

theorem not_mem_declaredTokens (b : Blueprint) {name : String} (hname : name ≠ "") :
    name ∉ declaredTokens b ↔ (∀ keyword ∈ b.keywords, trim keyword.word ≠ name) ∧
      ∀ operator ∈ b.operators, trim operator.symbol ≠ name := by
  rw [mem_declaredTokens hname]
  push Not
  rfl

theorem not_mem_ruleNames (b : Blueprint) {name : String} (hname : name ≠ "") :
    name ∉ ruleNames b ↔ (∀ rule ∈ b.grammarRules, trim rule.name ≠ name) ∧
      ∀ rule ∈ b.syntaxRules, trim rule.pattern ≠ name := by
  rw [mem_ruleNames hname]
  push Not
  rfl

theorem isBlank_or_iff {text other : String} :
    (isBlank text || isBlank other) = true ↔ trim text = "" ∨ trim other = "" := by
  rw [Bool.or_eq_true, isBlank_iff_trim, isBlank_iff_trim]

/-- **The review tells each kind of finding exactly, and in the order of the rules.** -/
theorem review_exact (b : Blueprint) : ExactReport b b.review where
  byRule := review_ordered b
  name := by
    rw [coded_missingName]
    simp only [isBlank_iff_trim]
  emptyKeywords :=
    ⟨_, places_placesWhere (fun _ => isBlank_iff_trim), coded_emptyKeyword b⟩
  duplicateKeywords := by
    have hwords := firstOccurrences_repeated_namesIn (b.keywords.map (·.word))
    rw [List.map_map] at hwords
    exact ⟨_, hwords, coded_duplicateKeyword b⟩
  emptyOperators :=
    ⟨_, places_placesWhere (fun _ => isBlank_iff_trim), coded_emptyOperator b⟩
  duplicateOperators := by
    have hsymbols := firstOccurrences_repeated_namesIn (b.operators.map (·.symbol))
    rw [List.map_map] at hsymbols
    exact ⟨_, hsymbols, coded_duplicateOperator b⟩
  precedences := by
    rw [coded_invalidPrecedence]
    apply congrArg (List.map _)
    apply List.filter_congr
    intro operator _
    rw [Bool.eq_iff_iff, Option.isNone_iff_eq_none, decide_eq_true_iff]
  grammarRules := by
    rw [coded_incompleteGrammarRule]
    apply congrArg (List.map _)
    apply List.filter_congr
    intro rule _
    rw [Bool.eq_iff_iff, isBlank_or_iff, decide_eq_true_iff]
  duplicateHandles := ⟨_, firstOccurrences_repeated _, coded_duplicateNodeId b⟩
  syntaxRules :=
    ⟨_, places_placesWhere (fun _ => isBlank_iff_trim), coded_incompleteSyntaxRule b⟩
  unresolvedTokens := by
    have htokens := firstOccurrences_news (b.syntaxRules.flatMap (·.tokens))
      (fun _ hname => not_mem_declaredTokens b hname)
    rw [List.map_flatMap] at htokens
    exact ⟨_, htokens, coded_unresolvedToken b⟩
  semanticActions :=
    ⟨_, places_placesWhere (fun _ => isBlank_or_iff), coded_incompleteSemanticAction b⟩
  danglingReferences := by
    have hnames := firstOccurrences_news (b.semanticActions.map (·.ruleName))
      (fun _ hname => not_mem_ruleNames b hname)
    rw [List.map_map] at hnames
    exact ⟨_, hnames, coded_danglingActionReference b⟩
  builtins := by
    refine ⟨_, places_placesWhere (fun _ => isBlank_or_iff), ?_⟩
    exact (coded_review b (.incompleteBuiltin 0)).trans (coded_checkBuiltins_places b)
  parameterTypes :=
    (coded_review b (.invalidParameterType "" "" .integer)).trans (coded_checkBuiltins_types b)
  backend := coded_missingBackend b

end Review

end LanguageBlueprint
