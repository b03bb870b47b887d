/-
  LanguageBlueprint/Generation/Scaffold.lean
  ==========================================
  **The scaffold of a language.**  From a blueprint with a name come a manifest,
  the grammar, the lexicon and the semantics, then documentation and a first
  program if they are wanted, and last the blueprint itself.  The manifest, the
  lexicon and the semantics have their keys in ascending order at every level.
-/
import LanguageBlueprint.Exchange.Wire
import LanguageBlueprint.Generation.Document
import LanguageBlueprint.Text.Slug

namespace LanguageBlueprint

open Text

/-- Generates the files of a language. -/
abbrev Engine := Blueprint → GenerateOptions → Except Failure (List Artifact)

/-- The characters of a segment of a file extension. -/
def isExtensionChar (c : Char) : Bool :=
  ('A' ≤ c && c ≤ 'Z') || ('a' ≤ c && c ≤ 'z') || ('0' ≤ c && c ≤ '9') ||
  c == '_' || c == '+' || c == '-'

/-- Whether a text is a run of segments, each a point and at least one plain character. -/
def isPlainExtension (extension : String) : Bool :=
  match extension.toList.splitOn '.' with
  | [] => true
  | first :: segments =>
      first.isEmpty && segments.all (fun segment => !segment.isEmpty && segment.all isExtensionChar)

namespace Scaffold

/-- The manifest: what the language is called, and how many parts it has. -/
def manifest (b : Blueprint) : Json :=
  Json.sortKeys (.ofMembers [
    ("name", .text b.name),
    ("version", .text b.version),
    ("language_type", .text (Vocabulary.word b.execution)),
    ("target_language", Json.ofOption (fun backend => .text (Vocabulary.word backend)) b.backend),
    ("file_extension", .text b.fileExtension),
    ("data_types", TypeSet.codec.encode b.types),
    ("counts", .ofMembers [
      ("grammar_rules", .ofNat b.grammarRules.length),
      ("syntax_rules", .ofNat b.syntaxRules.length),
      ("keywords", .ofNat b.keywords.length),
      ("operators", .ofNat b.operators.length),
      ("semantic_actions", .ofNat b.semanticActions.length),
      ("builtin_functions", .ofNat b.builtins.length)])])

/-- Whether an operator with the first precedence may stand before one with the second: the
greater one first, an absent one last. -/
def bindsAtLeast (first second : Option Int64) : Bool :=
  match first, second with
  | _, none => true
  | none, some _ => false
  | some p, some q => q.toInt ≤ p.toInt

/-- The operators by descending precedence, in declaration order among equals. -/
def operatorsByPrecedence (b : Blueprint) : List Operator :=
  b.operators.mergeSort (fun first second => bindsAtLeast first.precedence second.precedence)

/-- The lexicon: keywords, operators and comments. -/
def lexicon (b : Blueprint) : Json :=
  Json.sortKeys (.ofMembers [
    ("keywords", (Codec.list Keyword.schema.codec).encode b.keywords),
    ("operators", (Codec.list Operator.schema.codec).encode (operatorsByPrecedence b)),
    ("comments", CommentMarkers.schema.encode b.comments)])

/-- The semantics: syntax rules, semantic actions and built-in functions. -/
def semantics (b : Blueprint) : Json :=
  Json.sortKeys (.ofMembers [
    ("syntax_rules", (Codec.list SyntaxRule.schema.codec).encode b.syntaxRules),
    ("semantic_actions", (Codec.list SemanticAction.schema.codec).encode b.semanticActions),
    ("builtin_functions", (Codec.list Builtin.schema.codec).encode b.builtins)])

/-- The file in which the blueprint itself is kept. -/
def blueprintPath (b : Blueprint) : String := slug b.name ++ "_specification.json"

/-- The files that are always generated first. -/
def baseArtifacts (b : Blueprint) : List Artifact := [
  .ofText "manifest.json" (manifest b).pretty,
  .ofText "grammar.ebnf" b.grammarText,
  .ofText "lexicon.json" (lexicon b).pretty,
  .ofText "semantics.json" (semantics b).pretty]

def documentation (b : Blueprint) : List Artifact := [
  .ofText "docs/README.md" b.readmeText,
  .ofText "docs/LANGUAGE_REFERENCE.md" b.referenceText]

def examples (b : Blueprint) : List Artifact := [
  .ofText ("examples/hello" ++ b.fileExtension) b.helloText]

def blueprintArtifact (b : Blueprint) : Artifact :=
  .ofText (blueprintPath b) (Blueprint.codec.encode b).pretty

def generate : Engine := fun b options =>
  if isBlank b.name then .error (.generation .nameless)
  else if options.examples && !isPlainExtension b.fileExtension then
    .error (.generation (.badExtension b.fileExtension))
  else
    .ok (baseArtifacts b ++ (if options.documentation then documentation b else []) ++
      (if options.examples then examples b else []) ++ [blueprintArtifact b])

end Scaffold

end LanguageBlueprint
