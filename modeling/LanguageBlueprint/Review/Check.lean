/-
  LanguageBlueprint/Review/Check.lean
  ===================================
  **The review of a blueprint.**  Nine rules are checked one after the other, and
  no rule is cut short by another:

    1. the language has a name;
    2. keywords are not blank and not repeated, apart from blanks at their ends;
    3. operator symbols are not blank and not repeated, likewise;
    4. every operator has a precedence;
    5. grammar rules have a name and a pattern, and no two share a handle;
    6. syntax rules have a pattern, and their tokens are keywords or operators;
    7. semantic actions have a rule name and code, and the name is that of a
       grammar rule or the pattern of a syntax rule;
    8. built-in functions have a name and a description, and their parameters
       have declared types;
    9. a compiled language has a backend.
-/
import LanguageBlueprint.Review.Violation

namespace LanguageBlueprint

open Text

namespace Review

/-- The places of the parts that fail a test, in order. -/
def placesWhere {α : Type} (fails : α → Bool) (parts : List α) : List Nat :=
  parts.zipIdx.filterMap (fun (part, index) => if fails part then some index else none)

/-- The values that occur more than once, each a single time, in the order of their first
occurrence. -/
def repeated (values : List String) : List String :=
  (values.filter (fun value => values.count value > 1)).eraseDups

/-- The texts that are not blank, trimmed. -/
def namesIn (texts : List String) : List String :=
  (texts.map trim).filter (fun name => name ≠ "")

/-- The trimmed keywords and operator symbols, to which tokens refer. -/
def declaredTokens (b : Blueprint) : List String :=
  namesIn (b.keywords.map (·.word) ++ b.operators.map (·.symbol))

/-- The trimmed names of grammar rules and patterns of syntax rules, to which actions refer. -/
def ruleNames (b : Blueprint) : List String :=
  namesIn (b.grammarRules.map (·.name) ++ b.syntaxRules.map (·.pattern))

/-! ### The rules -/

/-- Rule 1: the language has a name. -/
def checkName (b : Blueprint) : List Violation :=
  if isBlank b.name then [.missingName] else []

/-- Rule 2: no keyword is blank, and none is repeated. -/
def checkKeywords (b : Blueprint) : List Violation :=
  (placesWhere (fun keyword : Keyword => isBlank keyword.word) b.keywords).map .emptyKeyword ++
  (repeated (namesIn (b.keywords.map (·.word)))).map .duplicateKeyword

/-- Rule 3: no operator symbol is blank, and none is repeated. -/
def checkOperatorSymbols (b : Blueprint) : List Violation :=
  (placesWhere (fun operator : Operator => isBlank operator.symbol) b.operators).map
    .emptyOperator ++
  (repeated (namesIn (b.operators.map (·.symbol)))).map .duplicateOperator

/-- Rule 4: every operator has a precedence. -/
def checkPrecedences (b : Blueprint) : List Violation :=
  (b.operators.filter (fun operator => operator.precedence.isNone)).map
    (fun operator => .invalidPrecedence operator.symbol)

/-- Rule 5: grammar rules are complete, and no two share a handle. -/
def checkGrammarRules (b : Blueprint) : List Violation :=
  (b.grammarRules.filter (fun rule => isBlank rule.name || isBlank rule.pattern)).map
    (fun rule => .incompleteGrammarRule rule.nodeId) ++
  (repeated (b.grammarRules.map (·.nodeId.text))).map (fun id => .duplicateNodeId ⟨id⟩)

/-- The values that are neither known nor reported before, each a single time, in the order of
their first occurrence. -/
def news (known reported values : List String) : List String :=
  (values.filter (fun value => !known.contains value && !reported.contains value)).eraseDups

/-- Checks the syntax rules from a place on; a token is reported once. -/
def checkSyntaxRulesFrom (declared : List String) (reported : List String) (index : Nat) :
    List SyntaxRule → List Violation
  | [] => []
  | rule :: rules =>
      let unresolved := news declared reported (namesIn rule.tokens)
      (if isBlank rule.pattern then [.incompleteSyntaxRule index] else []) ++
      unresolved.map .unresolvedToken ++
      checkSyntaxRulesFrom declared (reported ++ unresolved) (index + 1) rules

/-- Rule 6: syntax rules have a pattern, and their tokens are declared. -/
def checkSyntaxRules (b : Blueprint) : List Violation :=
  checkSyntaxRulesFrom (declaredTokens b) [] 0 b.syntaxRules

/-- Checks the semantic actions from a place on; a rule name is reported once. -/
def checkSemanticActionsFrom (known : List String) (reported : List String) (index : Nat) :
    List SemanticAction → List Violation
  | [] => []
  | action :: actions =>
      let dangling := news known reported (namesIn [action.ruleName])
      (if isBlank action.ruleName || isBlank action.code then [.incompleteSemanticAction index]
       else []) ++
      dangling.map .danglingActionReference ++
      checkSemanticActionsFrom known (reported ++ dangling) (index + 1) actions

/-- Rule 7: semantic actions are complete, and the rules they name exist. -/
def checkSemanticActions (b : Blueprint) : List Violation :=
  checkSemanticActionsFrom (ruleNames b) [] 0 b.semanticActions

def checkBuiltin (types : TypeSet) (builtin : Builtin) (index : Nat) : List Violation :=
  (if isBlank builtin.name || isBlank builtin.description then [.incompleteBuiltin index]
   else []) ++
  (builtin.parameters.filter (fun parameter => !types.contains parameter.type)).map
    (fun parameter => .invalidParameterType builtin.name parameter.name parameter.type)

/-- Rule 8: built-in functions are complete, and their parameters have declared types. -/
def checkBuiltins (b : Blueprint) : List Violation :=
  b.builtins.zipIdx.flatMap (fun (builtin, index) => checkBuiltin b.types builtin index)

/-- Rule 9: a compiled language has a backend. -/
def checkBackend (b : Blueprint) : List Violation :=
  if b.execution = .compiled ∧ b.backend = none then [.missingBackend] else []

end Review

namespace Blueprint

/-- All findings, in the order of the rules. -/
def review (b : Blueprint) : List Violation :=
  Review.checkName b ++ Review.checkKeywords b ++ Review.checkOperatorSymbols b ++
  Review.checkPrecedences b ++ Review.checkGrammarRules b ++ Review.checkSyntaxRules b ++
  Review.checkSemanticActions b ++ Review.checkBuiltins b ++ Review.checkBackend b

/-- The findings that keep the blueprint from being stored. -/
def blocking (b : Blueprint) : List Violation := b.review.filter Violation.isBlocking

/-- The findings that only keep it from being generated. -/
def advisory (b : Blueprint) : List Violation :=
  b.review.filter (fun violation => !violation.isBlocking)

def permitsSave (b : Blueprint) : Bool := b.blocking.isEmpty

def permitsGenerate (b : Blueprint) : Bool := b.review.isEmpty

end Blueprint

end LanguageBlueprint
