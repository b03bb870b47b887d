/-
  LanguageBlueprint/Blueprint/Basic.lean
  ======================================
  **The blueprint of a language.**  One value describes a language: what it is
  called, how it is executed, its lexical and grammatical parts in the order in
  which they were declared, and the data types it exposes.  The parts are grammar
  rules, keywords, operators, syntax rules, semantic actions and built-in functions,
  each with the values that a part has when its author has not said otherwise.
-/
import LanguageBlueprint.Blueprint.TypeSet
import LanguageBlueprint.Text.TokenList
import LanguageBlueprint.Vocabulary

namespace LanguageBlueprint

open Text

/-! ### The parts -/

/-- The handle of a grammar rule.  It is given once, when the rule is made. -/
structure NodeId where
  text : String
deriving DecidableEq, Repr

/-- The lower-case hexadecimal digits of a number, at least as many as asked for. -/
def hexDigits (width n : Nat) : List Char :=
  let digits := Nat.toDigits 16 n
  List.replicate (width - digits.length) '0' ++ digits

def NodeId.ofFresh (n : Nat) : NodeId := ⟨String.ofList ("node-".toList ++ hexDigits 32 n)⟩

/-- A production of the grammar. -/
structure GrammarRule where
  name : String := ""
  pattern : String := ""
  description : Option String := none
  nodeId : NodeId
deriving DecidableEq, Repr

/-- A reserved word. -/
structure Keyword where
  word : String := ""
  category : Option WordClass := none
  description : Option String := none
deriving DecidableEq, Repr

/-- An operator.  Its precedence is absent when what was given for it is no integer of 64 bits. -/
structure Operator where
  symbol : String := ""
  precedence : Option Int64 := none
  associativity : Associativity := .left
  operation : Option OperationKind := none
  implementation : String := ""
deriving DecidableEq, Repr

/-- A rule that puts tokens together. -/
structure SyntaxRule where
  kind : RuleKind := .statement
  pattern : String := ""
  tokens : List String := []
  precedence : Int64 := 0
  associativity : Associativity := .left
deriving DecidableEq, Repr

/-- The name under which a semantic action refers to the rule. -/
def SyntaxRule.identity (rule : SyntaxRule) : String := trim rule.pattern

/-- A syntax rule whose tokens were typed in one line. -/
def SyntaxRule.ofLine (kind : RuleKind) (pattern tokens : String) : SyntaxRule :=
  { kind := kind, pattern := pattern, tokens := splitTokens tokens }

/-- What happens when a rule is recognised. -/
structure SemanticAction where
  ruleName : String := ""
  kind : ActionKind := .evaluate
  code : String := ""
  returns : Option DataType := none
deriving DecidableEq, Repr

structure Parameter where
  name : String
  type : DataType
deriving DecidableEq, Repr

/-- A function that comes with the language. -/
structure Builtin where
  name : String := ""
  parameters : List Parameter := []
  returns : ReturnType := .void
  implementation : String := ""
  description : String := ""
deriving DecidableEq, Repr

/-- The parameter as it stands in a signature. -/
def Parameter.text (parameter : Parameter) : String :=
  parameter.name ++ ": " ++ Vocabulary.word parameter.type

/-- The function's name, parameters and return type in one line. -/
def Builtin.signature (builtin : Builtin) : String :=
  builtin.name ++ "(" ++ String.intercalate ", " (builtin.parameters.map Parameter.text) ++
  ") -> " ++ Vocabulary.word builtin.returns

/-- The markers of comments in the language. -/
structure CommentMarkers where
  line : Option String := some "//"
  blockStart : Option String := some "/*"
  blockEnd : Option String := some "*/"
deriving DecidableEq, Repr

/-! ### The whole -/

/-- The description of a language. -/
structure Blueprint where
  name : String := ""
  version : String := "1.0.0"
  description : String := ""
  execution : Execution := .interpreted
  backend : Option Backend := some .python
  fileExtension : String := ".prog"
  comments : CommentMarkers := {}
  types : TypeSet := .ofList [.integer, .float, .string, .boolean]
  grammarRules : List GrammarRule := []
  syntaxRules : List SyntaxRule := []
  semanticActions : List SemanticAction := []
  keywords : List Keyword := []
  operators : List Operator := []
  builtins : List Builtin := []
  author : Option String := none
deriving DecidableEq, Repr

namespace Blueprint

/-- A blueprint of which only the name is decided. -/
def named (name : String) : Blueprint := { name := name }

def headline (b : Blueprint) : String :=
  b.name ++ " " ++ b.version ++ " (" ++ Vocabulary.word b.execution ++ ", " ++
  toString b.grammarRules.length ++ " grammar rules, " ++
  toString b.keywords.length ++ " keywords, " ++
  toString b.operators.length ++ " operators)"

end Blueprint

end LanguageBlueprint
