/-
  LanguageBlueprint/Proofs/Review/Reordering.lean
  ===============================================
  **The order of the parts does not matter to the review.**  The parts of a
  blueprint, the tokens of a syntax rule and the parameters of a built-in function
  can be put in any other order.  The places that findings tell are then others,
  and the findings may come in another order, but they stay the same findings.  So
  both verdicts stay the same.

    * lists with their parts in another order  — `ReorderedBy.flatMap`, `ReorderedBy.map`;
    * findings without their places            — `placeless_places`;
    * one rule at a time                       — `checkKeywords_reordered`, …;
    * the whole review                         — `Blueprint.review_reordered`.
-/
import LanguageBlueprint.Proofs.Review.Rule

namespace LanguageBlueprint

open Text

/-! ### Other orders -/

/-- A list has its parts in another order, each changed as a relation allows. -/
def ReorderedBy {α : Type} (same : α → α → Prop) (parts others : List α) : Prop :=
  ∃ between, List.Forall₂ same parts between ∧ between.Perm others

/-- A syntax rule has its tokens in another order. -/
structure SyntaxRule.Reordered (rule other : SyntaxRule) : Prop where
  tokens : rule.tokens.Perm other.tokens
  rest : other = { rule with tokens := other.tokens }

/-- A built-in function has its parameters in another order. -/
structure Builtin.Reordered (builtin other : Builtin) : Prop where
  parameters : builtin.parameters.Perm other.parameters
  rest : other = { builtin with parameters := other.parameters }

/-- A blueprint has its parts in another order. -/
structure Blueprint.Reordered (b other : Blueprint) : Prop where
  grammarRules : b.grammarRules.Perm other.grammarRules
  syntaxRules : ReorderedBy SyntaxRule.Reordered b.syntaxRules other.syntaxRules
  semanticActions : b.semanticActions.Perm other.semanticActions
  keywords : b.keywords.Perm other.keywords
  operators : b.operators.Perm other.operators
  builtins : ReorderedBy Builtin.Reordered b.builtins other.builtins
  rest : other = { b with
    grammarRules := other.grammarRules, syntaxRules := other.syntaxRules
    semanticActions := other.semanticActions, keywords := other.keywords
    operators := other.operators, builtins := other.builtins }

theorem SyntaxRule.Reordered.pattern {rule other : SyntaxRule} (h : rule.Reordered other) :
    other.pattern = rule.pattern := by
  rw [h.rest]

/-- The finding without the place that it tells. -/
def Violation.placeless : Violation → Violation
  | .emptyKeyword _ => .emptyKeyword 0
  | .emptyOperator _ => .emptyOperator 0
  | .incompleteSyntaxRule _ => .incompleteSyntaxRule 0
  | .incompleteSemanticAction _ => .incompleteSemanticAction 0
  | .incompleteBuiltin _ => .incompleteBuiltin 0
  | finding => finding

theorem Violation.isBlocking_placeless (finding : Violation) :
    finding.placeless.isBlocking = finding.isBlocking := by
  cases finding <;> rfl

namespace ReorderedBy

variable {α β : Type} {same : α → α → Prop} {parts others : List α}

theorem flatMap {f : α → List β} (hf : ∀ part other, same part other → (f part).Perm (f other))
    (h : ReorderedBy same parts others) : (parts.flatMap f).Perm (others.flatMap f) := by
  rcases h with ⟨between, hsame, hperm⟩
  refine List.Perm.trans ?_ (hperm.flatMap_right f)
  clear hperm
  induction hsame with
  | nil => exact List.Perm.refl _
  | cons hpart _ ih => exact (hf _ _ hpart).append ih

theorem map {f : α → β} (hf : ∀ part other, same part other → f part = f other)
    (h : ReorderedBy same parts others) : (parts.map f).Perm (others.map f) := by
  rw [List.map_eq_flatMap, List.map_eq_flatMap]
  apply h.flatMap
  intro part other hsame
  rw [hf part other hsame]

end ReorderedBy

namespace Review

/-! ### Lists of findings in another order -/

section

variable {α : Type} {parts others : List α}

/-- Without their places, only the number of findings of a kind that tells places is left. -/
theorem placeless_places {fails : α → Bool} {tell : Nat → Violation} {plain : Violation}
    (htell : ∀ place, (tell place).placeless = plain)
    (hfails : (parts.map fails).Perm (others.map fails)) :
    ((placesWhere fails parts).map tell).map Violation.placeless =
      ((placesWhere fails others).map tell).map Violation.placeless := by
  have hcount : parts.countP fails = others.countP fails := by
    have := hfails.countP_eq id
    rwa [List.countP_map, List.countP_map] at this
  have hplain : ∀ places : List Nat, (places.map tell).map Violation.placeless =
      List.replicate places.length plain := by
    intro places
    rw [List.map_map, ← List.map_const]
    exact List.map_congr_left (fun place _ => htell place)
  rw [hplain, hplain, length_placesWhere, length_placesWhere, hcount]

theorem repeated_perm {values more : List String} (h : values.Perm more) :
    (repeated values).Perm (repeated more) := by
  apply (List.perm_ext_iff_of_nodup (nodup_eraseDups _) (nodup_eraseDups _)).mpr
  intro value
  simp only [List.mem_eraseDups, List.mem_filter, h.mem_iff, h.count_eq]

theorem news_perm {known learned values more : List String}
    (hknown : ∀ name, name ∈ known ↔ name ∈ learned) (h : values.Perm more) :
    (news known [] values).Perm (news learned [] more) := by
  apply (List.perm_ext_iff_of_nodup (nodup_news _ _ _) (nodup_news _ _ _)).mpr
  intro name
  rw [mem_news, mem_news, hknown, h.mem_iff]

theorem namesIn_perm {texts more : List String} (h : texts.Perm more) :
    (namesIn texts).Perm (namesIn more) :=
  (h.map trim).filter _

theorem mem_namesIn_perm {texts more : List String} (h : texts.Perm more) (name : String) :
    name ∈ namesIn texts ↔ name ∈ namesIn more :=
  (namesIn_perm h).mem_iff

/-- What is found among texts that are to be neither blank nor repeated. -/
theorem texts_reordered {get : α → String} {tell : Nat → Violation} {report : String → Violation}
    {plain : Violation} (htell : ∀ place, (tell place).placeless = plain)
    (h : parts.Perm others) :
    (((placesWhere (fun part => isBlank (get part)) parts).map tell ++
        (repeated (namesIn (parts.map get))).map report).map Violation.placeless).Perm
      (((placesWhere (fun part => isBlank (get part)) others).map tell ++
        (repeated (namesIn (others.map get))).map report).map Violation.placeless) := by
  rw [List.map_append, List.map_append, placeless_places htell (h.map _)]
  exact (((repeated_perm (namesIn_perm (h.map get))).map _).map _).append_left _

/-- What is found among parts that refer to others. -/
theorem pass_reordered (kind : Referring α) {known learned : List String} {plain : Violation}
    (hplace : ∀ place, (kind.atPlace place).placeless = plain)
    (hknown : ∀ name, name ∈ known ↔ name ∈ learned)
    (hincomplete : (parts.map kind.incomplete).Perm (others.map kind.incomplete))
    (hnames : (parts.flatMap kind.names).Perm (others.flatMap kind.names)) :
    ((kind.passFrom known [] 0 parts).map Violation.placeless).Perm
      ((kind.passFrom learned [] 0 others).map Violation.placeless) := by
  have hsplit : ∀ (names : List String) (members : List α),
      ((kind.passFrom names [] 0 members).map Violation.placeless).Perm
        (((placesWhere kind.incomplete members).map kind.atPlace).map Violation.placeless ++
          ((news names [] (members.flatMap kind.names)).map kind.unknown).map
            Violation.placeless) := by
    intro names members
    rw [← List.map_append]
    exact (kind.passFrom_perm _ _).map _
  refine (hsplit known parts).trans (List.Perm.trans ?_ (hsplit learned others).symm)
  rw [placeless_places hplace hincomplete]
  exact (((news_perm hknown hnames).map _).map _).append_left _

end

/-! ### One rule at a time -/

section

variable {b other : Blueprint}

theorem checkKeywords_reordered (h : b.keywords.Perm other.keywords) :
    ((checkKeywords b).map Violation.placeless).Perm
      ((checkKeywords other).map Violation.placeless) :=
  texts_reordered (fun _ => rfl) h

theorem checkOperatorSymbols_reordered (h : b.operators.Perm other.operators) :
    ((checkOperatorSymbols b).map Violation.placeless).Perm
      ((checkOperatorSymbols other).map Violation.placeless) :=
  texts_reordered (fun _ => rfl) h

theorem checkPrecedences_reordered (h : b.operators.Perm other.operators) :
    (checkPrecedences b).Perm (checkPrecedences other) :=
  (h.filter _).map _

theorem checkGrammarRules_reordered (h : b.grammarRules.Perm other.grammarRules) :
    (checkGrammarRules b).Perm (checkGrammarRules other) :=
  ((h.filter _).map _).append ((repeated_perm (h.map _)).map _)

theorem checkSyntaxRules_reordered (h : b.Reordered other) :
    ((checkSyntaxRules b).map Violation.placeless).Perm
      ((checkSyntaxRules other).map Violation.placeless) := by
  rw [checkSyntaxRules_eq_pass, checkSyntaxRules_eq_pass]
  apply pass_reordered Referring.syntaxRule (fun _ => rfl)
  · exact mem_namesIn_perm ((h.keywords.map _).append (h.operators.map _))
  · apply h.syntaxRules.map
    intro rule changed hrule
    exact congrArg isBlank hrule.pattern.symm
  · apply h.syntaxRules.flatMap
    intro rule changed hrule
    exact namesIn_perm hrule.tokens

theorem checkSemanticActions_reordered (h : b.Reordered other) :
    ((checkSemanticActions b).map Violation.placeless).Perm
      ((checkSemanticActions other).map Violation.placeless) := by
  rw [checkSemanticActions_eq_pass, checkSemanticActions_eq_pass]
  apply pass_reordered Referring.semanticAction (fun _ => rfl)
  · apply mem_namesIn_perm
    apply (h.grammarRules.map _).append
    apply h.syntaxRules.map
    intro rule changed hrule
    exact hrule.pattern.symm
  · exact h.semanticActions.map _
  · exact h.semanticActions.flatMap_right _

theorem checkBuiltin_reordered (types : TypeSet) {builtin changed : Builtin}
    (h : builtin.Reordered changed) :
    ((checkBuiltin types builtin 0).map Violation.placeless).Perm
      ((checkBuiltin types changed 0).map Violation.placeless) := by
  have hname : changed.name = builtin.name := by rw [h.rest]
  have hdescription : changed.description = builtin.description := by rw [h.rest]
  rw [checkBuiltin, checkBuiltin, hname, hdescription]
  exact (((h.parameters.filter _).map _).append_left _).map _

theorem checkBuiltins_reordered (h : b.Reordered other) :
    ((checkBuiltins b).map Violation.placeless).Perm
      ((checkBuiltins other).map Violation.placeless) := by
  have hplaceless : ∀ blueprint : Blueprint,
      (checkBuiltins blueprint).map Violation.placeless =
        blueprint.builtins.flatMap (fun builtin =>
          (checkBuiltin blueprint.types builtin 0).map Violation.placeless) := by
    intro blueprint
    conv => rhs; rw [← List.zipIdx_map_fst 0 blueprint.builtins, List.flatMap_map]
    rw [checkBuiltins, List.map_flatMap]
    apply List.flatMap_congr
    rintro ⟨builtin, index⟩ -
    simp only [checkBuiltin, List.map_append, List.map_map]
    congr 1
    split <;> rfl
  have htypes : other.types = b.types := by rw [h.rest]
  rw [hplaceless, hplaceless, htypes]
  exact h.builtins.flatMap (fun _ _ => checkBuiltin_reordered b.types)

end

/-! ### The whole review -/

theorem placeless_review_perm {b other : Blueprint} (h : b.Reordered other) :
    (other.review.map Violation.placeless).Perm (b.review.map Violation.placeless) := by
  apply List.Perm.symm
  apply map_review_perm
  intro rule
  cases rule with
  | name =>
      have hname : other.name = b.name := by rw [h.rest]
      rw [Rule.findings, Rule.findings, checkName, checkName, hname]
  | keywords => exact checkKeywords_reordered h.keywords
  | operatorSymbols => exact checkOperatorSymbols_reordered h.operators
  | precedences => exact (checkPrecedences_reordered h.operators).map _
  | grammarRules => exact (checkGrammarRules_reordered h.grammarRules).map _
  | syntaxRules => exact checkSyntaxRules_reordered h
  | semanticActions => exact checkSemanticActions_reordered h
  | builtins => exact checkBuiltins_reordered h
  | backend =>
      have hexecution : other.execution = b.execution := by rw [h.rest]
      have hbackend : other.backend = b.backend := by rw [h.rest]
      rw [Rule.findings, Rule.findings, checkBackend, checkBackend, hexecution, hbackend]

/-- Whether a finding is blocking does not depend on the place that it tells. -/
theorem permitsSave_iff_placeless (b : Blueprint) :
    b.permitsSave = true ↔
      ∀ finding ∈ b.review.map Violation.placeless, finding.isBlocking = false := by
  rw [permitsSave_iff_forall, List.forall_mem_map]
  simp only [Violation.isBlocking_placeless]

end Review

open Review

/-- **With the parts in another order the findings are the same, but for the places they tell, and
so are both verdicts.** -/
theorem Blueprint.review_reordered {b other : Blueprint} (h : b.Reordered other) :
    (other.review.map Violation.placeless).Perm (b.review.map Violation.placeless) ∧
    other.permitsSave = b.permitsSave ∧ other.permitsGenerate = b.permitsGenerate := by
  have hperm := placeless_review_perm h
  refine ⟨hperm, ?_, ?_⟩
  · rw [Bool.eq_iff_iff, permitsSave_iff_placeless, permitsSave_iff_placeless]
    simp only [hperm.mem_iff]
  · have hlength := hperm.length_eq
    rw [List.length_map, List.length_map] at hlength
    rw [Bool.eq_iff_iff, Blueprint.permitsGenerate, Blueprint.permitsGenerate, List.isEmpty_iff,
      List.isEmpty_iff, ← List.length_eq_zero_iff, ← List.length_eq_zero_iff, hlength]

/-- A blueprint with findings of many kinds. -/
def Blueprint.unfinished : Blueprint where
  name := "Toy"
  grammarRules := [{ name := "term", pattern := "x", nodeId := ⟨"a"⟩ },
    { name := "sum", nodeId := ⟨"a"⟩ }]
  syntaxRules := [{ pattern := "sum", tokens := ["if", "then"] }, { tokens := ["else", "then"] }]
  semanticActions := [{ ruleName := "product", code := "1" }, { ruleName := "sum" }]
  keywords := [{ word := "if" }, { word := " if" }]
  operators := [{ symbol := "+" }, { symbol := "", precedence := some 1 }]
  builtins := [{ name := "f" },
    { name := "g", parameters := [⟨"x", .integer⟩, ⟨"y", .object⟩] }]

/-- The same with everything in the opposite order. -/
def Blueprint.unfinishedReversed : Blueprint where
  name := "Toy"
  grammarRules := [{ name := "sum", nodeId := ⟨"a"⟩ },
    { name := "term", pattern := "x", nodeId := ⟨"a"⟩ }]
  syntaxRules := [{ tokens := ["then", "else"] }, { pattern := "sum", tokens := ["then", "if"] }]
  semanticActions := [{ ruleName := "sum" }, { ruleName := "product", code := "1" }]
  keywords := [{ word := " if" }, { word := "if" }]
  operators := [{ symbol := "", precedence := some 1 }, { symbol := "+" }]
  builtins := [{ name := "g", parameters := [⟨"y", .object⟩, ⟨"x", .integer⟩] },
    { name := "f" }]

theorem Blueprint.review_unfinishedReversed :
    Blueprint.unfinished.Reordered Blueprint.unfinishedReversed ∧
    (Blueprint.unfinishedReversed.review.map Violation.placeless).Perm
      (Blueprint.unfinished.review.map Violation.placeless) ∧
    Blueprint.unfinishedReversed.permitsSave = Blueprint.unfinished.permitsSave ∧
    Blueprint.unfinishedReversed.permitsGenerate = Blueprint.unfinished.permitsGenerate := by
  have h : Blueprint.unfinished.Reordered Blueprint.unfinishedReversed := {
    grammarRules := .swap _ _ _
    syntaxRules := ⟨_, .cons ⟨.swap _ _ _, rfl⟩ (.cons ⟨.swap _ _ _, rfl⟩ .nil), .swap _ _ _⟩
    semanticActions := .swap _ _ _
    keywords := .swap _ _ _
    operators := .swap _ _ _
    builtins := ⟨_, .cons ⟨.refl _, rfl⟩ (.cons ⟨.swap _ _ _, rfl⟩ .nil), .swap _ _ _⟩
    rest := rfl }
  exact ⟨h, Blueprint.review_reordered h⟩

end LanguageBlueprint
