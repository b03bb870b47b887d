/-
  LanguageBlueprint/Review/Violation.lean
  =======================================
  **Findings about a blueprint.**  A finding names what is wrong with which part.
  A blocking finding keeps a blueprint from being stored; an advisory one, about
  the unfinished parts of a grammar, only keeps it from being generated.
-/
import LanguageBlueprint.Blueprint.Basic

namespace LanguageBlueprint

/-- How much a finding holds up. -/
inductive Severity where
  | blocking | advisory
deriving DecidableEq, Repr

def Severity.text : Severity → String
  | .blocking => "blocking"
  | .advisory => "advisory"

/-- Something that is wrong with a blueprint. -/
inductive Violation where
  | missingName
  | emptyKeyword (index : Nat)
  | duplicateKeyword (word : String)
  | emptyOperator (index : Nat)
  | duplicateOperator (symbol : String)
  | invalidPrecedence (symbol : String)
  | incompleteGrammarRule (nodeId : NodeId)
  | duplicateNodeId (nodeId : NodeId)
  | incompleteSyntaxRule (index : Nat)
  | unresolvedToken (token : String)
  | incompleteSemanticAction (index : Nat)
  | danglingActionReference (ruleName : String)
  | incompleteBuiltin (index : Nat)
  | invalidParameterType (function parameter : String) (type : DataType)
  | missingBackend
deriving DecidableEq, Repr

namespace Violation

def code : Violation → String
  | .missingName => "MissingName"
  | .emptyKeyword _ => "EmptyKeyword"
  | .duplicateKeyword _ => "DuplicateKeyword"
  | .emptyOperator _ => "EmptyOperator"
  | .duplicateOperator _ => "DuplicateOperator"
  | .invalidPrecedence _ => "InvalidPrecedence"
  | .incompleteGrammarRule _ => "IncompleteGrammarRule"
  | .duplicateNodeId _ => "DuplicateNodeId"
  | .incompleteSyntaxRule _ => "IncompleteSyntaxRule"
  | .unresolvedToken _ => "UnresolvedToken"
  | .incompleteSemanticAction _ => "IncompleteSemanticAction"
  | .danglingActionReference _ => "DanglingActionReference"
  | .incompleteBuiltin _ => "IncompleteBuiltinFunction"
  | .invalidParameterType _ _ _ => "InvalidParameterType"
  | .missingBackend => "MissingCompilationTarget"

def severity : Violation → Severity
  | .incompleteSyntaxRule _ => .advisory
  | .unresolvedToken _ => .advisory
  | .incompleteSemanticAction _ => .advisory
  | .danglingActionReference _ => .advisory
  | _ => .blocking

/-- Whether the finding keeps a blueprint from being stored. -/
def isBlocking (violation : Violation) : Bool := violation.severity = .blocking

def detail : Violation → String
  | .missingName => "the language has no name"
  | .emptyKeyword index => "keyword #" ++ toString index ++ " has an empty word"
  | .duplicateKeyword word => "keyword '" ++ word ++ "' is declared more than once"
  | .emptyOperator index => "operator #" ++ toString index ++ " has an empty symbol"
  | .duplicateOperator symbol => "operator '" ++ symbol ++ "' is declared more than once"
  | .invalidPrecedence symbol =>
      "operator '" ++ symbol ++ "' has a precedence that is not a finite integer"
  | .incompleteGrammarRule nodeId =>
      "grammar rule " ++ nodeId.text ++ " needs both a name and a pattern"
  | .duplicateNodeId nodeId =>
      "node id " ++ nodeId.text ++ " is used by more than one grammar rule"
  | .incompleteSyntaxRule index => "syntax rule #" ++ toString index ++ " has an empty pattern"
  | .unresolvedToken token => "token '" ++ token ++ "' matches no keyword or operator"
  | .incompleteSemanticAction index =>
      "semantic action #" ++ toString index ++ " needs both a rule name and action code"
  | .danglingActionReference ruleName =>
      "semantic action refers to unknown rule '" ++ ruleName ++ "'"
  | .incompleteBuiltin index =>
      "built-in function #" ++ toString index ++ " needs both a name and a description"
  | .invalidParameterType function parameter type =>
      "parameter '" ++ parameter ++ "' of '" ++ function ++ "' uses type '" ++
      Vocabulary.word type ++ "' which the language does not declare"
  | .missingBackend => "a compiled language needs a compilation target"

end Violation

end LanguageBlueprint
