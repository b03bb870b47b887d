/-
  LanguageBlueprint/Blueprint/Wire.lean
  =====================================
  **Blueprints as JSON.**  The schema of every part of a blueprint and of the
  blueprint itself.  The order of the fields is the order in which they are
  written, and the order of the items when a record is read from a list.
-/
import LanguageBlueprint.Blueprint.Basic
import LanguageBlueprint.Json.Codec

namespace LanguageBlueprint

open Text

def NodeId.codec : Codec NodeId := Codec.text.map NodeId.text NodeId.mk

/-- The integer that a value given as a precedence stands for: an integer of 64 bits, a double that
is one, or a text that writes one. -/
def precedenceOf : Json → Option Int64
  | .number numeral =>
      let n? := match numeral.value? with
        | some (.integer n) => some n
        | some (.double d) => d.toInt?
        | none => none
      (n?.filter Number.fitsInt64).map Int64.ofInt
  | .text s => ((Number.integer? (trimChars s.toList)).filter Number.fitsInt64).map Int64.ofInt
  | _ => none

/-- Precedences: any value is taken, and one that is no integer of 64 bits counts as absent. -/
def precedenceCodec : Codec (Option Int64) where
  encode := Json.ofOption (fun n => .ofInt n.toInt)
  decode depth json :=
    if json.isKeepable depth then return precedenceOf json else Decode.malformed

/-- Grammar rules; a rule without a handle is given a fresh one. -/
def GrammarRule.schema : Schema GrammarRule where
  name := "GrammarRule"
  blank := { nodeId := ⟨""⟩ }
  fields := [
    .of "name" .text (·.name) (fun x r => { r with name := x }) .blank,
    .of "pattern" .text (·.pattern) (fun x r => { r with pattern := x }) .blank,
    .of "description" (.option .text) (·.description) (fun x r => { r with description := x })
      .blank,
    .of "node_id" NodeId.codec (·.nodeId) (fun x r => { r with nodeId := x })
      (.filled (fun n r => { r with nodeId := .ofFresh n }))]

def Keyword.schema : Schema Keyword where
  name := "Keyword"
  blank := {}
  fields := [
    .of "word" .text (·.word) (fun x r => { r with word := x }) .blank,
    .of "category" .optionalWord (·.category) (fun x r => { r with category := x }) .blank,
    .of "description" (.option .text) (·.description) (fun x r => { r with description := x })
      .blank]

def Operator.schema : Schema Operator where
  name := "Operator"
  blank := {}
  fields := [
    .of "symbol" .text (·.symbol) (fun x r => { r with symbol := x }) .blank,
    .of "precedence" precedenceCodec (·.precedence) (fun x r => { r with precedence := x }) .blank,
    .of "associativity" .word (·.associativity) (fun x r => { r with associativity := x }) .blank,
    .of "operation_type" .optionalWord (·.operation) (fun x r => { r with operation := x }) .blank,
    .of "implementation" .text (·.implementation) (fun x r => { r with implementation := x })
      .blank]

def SyntaxRule.schema : Schema SyntaxRule where
  name := "SyntaxRule"
  blank := {}
  fields := [
    .of "rule_type" .word (·.kind) (fun x r => { r with kind := x }) .blank,
    .of "pattern" .text (·.pattern) (fun x r => { r with pattern := x }) .blank,
    .of "tokens" (.list .text) (·.tokens) (fun x r => { r with tokens := x }) .blank,
    .of "precedence" .int64 (·.precedence) (fun x r => { r with precedence := x }) .blank,
    .of "associativity" .word (·.associativity) (fun x r => { r with associativity := x }) .blank]

def SemanticAction.schema : Schema SemanticAction where
  name := "SemanticAction"
  blank := {}
  fields := [
    .of "rule_name" .text (·.ruleName) (fun x r => { r with ruleName := x }) .blank,
    .of "action_type" .word (·.kind) (fun x r => { r with kind := x }) .blank,
    .of "action_code" .text (·.code) (fun x r => { r with code := x }) .blank,
    .of "returns" .optionalWord (·.returns) (fun x r => { r with returns := x }) .blank]

/-- Parameters, which need both their name and their type. -/
def Parameter.schema : Schema Parameter where
  name := "Parameter"
  blank := ⟨"", .integer⟩
  fields := [
    .of "name" .text (·.name) (fun x r => { r with name := x }) .refused,
    .of "type" .word (·.type) (fun x r => { r with type := x }) .refused]

def Builtin.schema : Schema Builtin where
  name := "BuiltinFunction"
  blank := {}
  fields := [
    .of "name" .text (·.name) (fun x r => { r with name := x }) .blank,
    .of "parameters" (.list Parameter.schema.codec) (·.parameters)
      (fun x r => { r with parameters := x }) .blank,
    .of "return_type" .word (·.returns) (fun x r => { r with returns := x }) .blank,
    .of "implementation" .text (·.implementation) (fun x r => { r with implementation := x })
      .blank,
    .of "description" .text (·.description) (fun x r => { r with description := x }) .blank]

/-- A marker that is left out is absent; only a blueprint that says nothing of its comments has
the usual markers. -/
def CommentMarkers.schema : Schema CommentMarkers where
  name := "CommentSyntax"
  blank := ⟨none, none, none⟩
  fields := [
    .of "single_line" (.option .text) (·.line) (fun x r => { r with line := x }) .blank,
    .of "multi_line_start" (.option .text) (·.blockStart) (fun x r => { r with blockStart := x })
      .blank,
    .of "multi_line_end" (.option .text) (·.blockEnd) (fun x r => { r with blockEnd := x })
      .blank]

/-- Sets of data types are written as lists in the order of the vocabulary. -/
def TypeSet.codec : Codec TypeSet := (Codec.list Codec.word).map TypeSet.toList TypeSet.ofList

/-- Blueprints; a field that is left out has the value of a new blueprint. -/
def Blueprint.schema : Schema Blueprint where
  name := "LanguageSpecification"
  blank := {}
  fields := [
    .of "name" .text (·.name) (fun x b => { b with name := x }) .blank,
    .of "version" .text (·.version) (fun x b => { b with version := x }) .blank,
    .of "description" .text (·.description) (fun x b => { b with description := x }) .blank,
    .of "language_type" .word (·.execution) (fun x b => { b with execution := x }) .blank,
    .of "target_language" .optionalWord (·.backend) (fun x b => { b with backend := x }) .blank,
    .of "file_extension" .text (·.fileExtension) (fun x b => { b with fileExtension := x }) .blank,
    .of "comment_syntax" CommentMarkers.schema.codec (·.comments)
      (fun x b => { b with comments := x }) .blank,
    .of "data_types" TypeSet.codec (·.types) (fun x b => { b with types := x }) .blank,
    .of "grammar_rules" (.list GrammarRule.schema.codec) (·.grammarRules)
      (fun x b => { b with grammarRules := x }) .blank,
    .of "syntax_rules" (.list SyntaxRule.schema.codec) (·.syntaxRules)
      (fun x b => { b with syntaxRules := x }) .blank,
    .of "semantic_actions" (.list SemanticAction.schema.codec) (·.semanticActions)
      (fun x b => { b with semanticActions := x }) .blank,
    .of "keywords" (.list Keyword.schema.codec) (·.keywords) (fun x b => { b with keywords := x })
      .blank,
    .of "operators" (.list Operator.schema.codec) (·.operators)
      (fun x b => { b with operators := x }) .blank,
    .of "builtin_functions" (.list Builtin.schema.codec) (·.builtins)
      (fun x b => { b with builtins := x }) .blank,
    .of "author" (.option .text) (·.author) (fun x b => { b with author := x }) .blank]

def Blueprint.codec : Codec Blueprint := Blueprint.schema.codec

end LanguageBlueprint
