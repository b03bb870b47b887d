/-
  LanguageBlueprint/Generation/Document.lean
  ==========================================
  **The generated texts.**  The grammar file, the readme, the language reference
  and the first program, each built line by line from a blueprint.
-/
import LanguageBlueprint.Blueprint.Basic

namespace LanguageBlueprint

namespace Blueprint

/-- Lines, each with its line break. -/
def unlines (lines : List String) : String := String.join (lines.map (· ++ "\n"))

/-! ### The grammar -/

/-- The lines of one production: its description as a comment, then the production. -/
def productionLines (rule : GrammarRule) : List String :=
  (match rule.description with
   | some description => ["(* " ++ description ++ " *)"]
   | none => []) ++
  [rule.name ++ " = " ++ rule.pattern ++ " ;"]

def syntaxRuleLine (rule : SyntaxRule) : String :=
  "(* " ++ Vocabulary.word rule.kind ++ " [" ++ toString rule.precedence.toInt ++ " " ++
  Vocabulary.word rule.associativity ++ "] : " ++ rule.identity ++ " *)"

/-- The grammar file: a heading, the productions, and the syntax rules as comments. -/
def grammarText (b : Blueprint) : String :=
  unlines (["(* " ++ b.name ++ " " ++ b.version ++ " *)", ""] ++
    b.grammarRules.flatMap productionLines ++
    (if b.syntaxRules.isEmpty then []
     else ["", "(* syntax rules *)"] ++ b.syntaxRules.map syntaxRuleLine))

/-! ### The documentation -/

def readmeText (b : Blueprint) : String :=
  unlines (["# " ++ b.name, ""] ++
    (if b.description.isEmpty then [] else [b.description, ""]) ++
    ["- Version: " ++ b.version, "- Type: " ++ Vocabulary.word b.execution] ++
    (match b.backend with
     | some backend => ["- Target: " ++ Vocabulary.word backend]
     | none => []) ++
    ["- Source files: `*" ++ b.fileExtension ++ "`"] ++
    (match b.author with
     | some author => ["- Author: " ++ author]
     | none => []) ++
    ["", "See `LANGUAGE_REFERENCE.md` for the full reference."])

def keywordLine (keyword : Keyword) : String :=
  "- `" ++ keyword.word ++ "` (" ++
  (match keyword.category with
   | some category => Vocabulary.word category
   | none => "-") ++ ")" ++
  (match keyword.description with
   | some description => ": " ++ description
   | none => "")

def operatorRow (operator : Operator) : String :=
  "| `" ++ operator.symbol ++ "` | " ++
  (match operator.precedence with
   | some precedence => toString precedence.toInt
   | none => "") ++
  " | " ++ Vocabulary.word operator.associativity ++ " |"

def builtinLines (builtin : Builtin) : List String :=
  ["### `" ++ builtin.signature ++ "`", "", builtin.description, ""]

def referenceText (b : Blueprint) : String :=
  unlines (["# " ++ b.name ++ " Language Reference", "", "## Keywords", ""] ++
    b.keywords.map keywordLine ++
    ["", "## Operators", "", "| Symbol | Precedence | Associativity |", "|---|---|---|"] ++
    b.operators.map operatorRow ++
    ["", "## Built-in Functions", ""] ++
    b.builtins.flatMap builtinLines ++
    ["## Data Types", ""] ++
    b.types.toList.map (fun type => "- `" ++ Vocabulary.word type ++ "`"))

/-! ### The first program -/

/-- The function that the first program calls: the one named `print`, or else the first. -/
def printer (b : Blueprint) : Option Builtin :=
  (b.builtins.find? (fun builtin => builtin.name == "print")).or b.builtins.head?

def helloText (b : Blueprint) : String :=
  unlines (
    (match b.comments.line with
     | some marker => [marker ++ " Hello world in " ++ b.name]
     | none => []) ++
    [match b.printer with
     | some builtin => builtin.name ++ "(\"Hello, world!\")"
     | none => "\"Hello, world!\""])

end Blueprint

end LanguageBlueprint
